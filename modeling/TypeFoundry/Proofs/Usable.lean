import TypeFoundry.Proofs.Presence

/-!
# Types that references need

A struct of a reference may use a type that its own unit defines next to it. The crate of a compilation
keeps the struct, and of the types of references the structs and the enums, but no union and no alias
(`definesType_merge`). So a reference stays usable just if every name that its structs need is a struct or
an enum of some unit, or a type of a target (`staysUsable_merge_iff`), as is the case for a unit without
unions and aliases (`staysUsable_of_nominal`). A struct that uses an alias of its unit is kept without it
(`unusable`).
-/

set_option autoImplicit false

namespace TypeFoundry

open Source Crate

namespace Source

/-- The name that the item defines as a type: that of a struct, an enum, a union or an alias. -/
def Item.definedType? : Item → Option String
  | .struct s => some s.name
  | .enum e => some e.name
  | .other (.union _ _ name _ _) => some name
  | .other (.alias _ _ name _ _) => some name
  | _ => none

/-- The types of the fields. -/
def Fields.types : Fields → List Ty
  | .named fields => fields.map (·.type)
  | .unnamed slots => slots.map (·.type)
  | .unit => []

/-- The struct uses the name: one of its fields has a type that is a path of this name alone. -/
def StructDecl.Uses (s : StructDecl) (name : String) : Prop :=
  ∃ segment : Segment, Ty.path false [segment] ∈ s.fields.types ∧ segment.name = name

/-- The name is defined as a type right in the module at the path. -/
def DefinesType (path : List String) (items : List Item) (name : String) : Prop :=
  ∃ i ∈ leavesAt path items, i.definedType? = some name

theorem definedType?_of_typeName? {i : Item} {name : String} (h : typeName? i = some name) :
    i.definedType? = some name := by
  cases i <;> simp_all [typeName?, Item.definedType?]

/-- A type without a key is a union or an alias, and the key of any other one is its name. -/
theorem typeName?_or_key?_of_definedType? {i : Item} {name : String}
    (h : i.definedType? = some name) : typeName? i = some name ∨ i.key? = none := by
  cases i <;> simp_all [typeName?, Item.definedType?, Item.key?]

end Source

namespace Crate

/-- The unit stays usable in the crate: where one of its structs is kept and uses a name that the unit
defines as a type next to the struct, the crate defines the name there as well. -/
def StaysUsable (unit crate : SourceUnit) : Prop :=
  ∀ path s name, Item.struct s ∈ leavesAt path unit.items → Item.struct s ∈ leavesAt path crate.items →
    s.Uses name → DefinesType path unit.items name → DefinesType path crate.items name

/-- The units have a type of the name that a merged crate keeps: a struct or an enum of any unit, or any
type of a target. -/
def Survives (targets references : List SourceUnit) (path : List String) (name : String) : Prop :=
  typesOf ⟨path, name⟩ (references ++ targets) ≠ [] ∨ ∃ u ∈ targets, DefinesType path u.items name

variable {path : List String} {targets references : List SourceUnit} {name : String}

/-- What stands right in a module of a merged crate. -/
theorem leavesAt_merge (path : List String) (targets references : List SourceUnit) :
    leavesAt path (merge targets references).items =
      settled Item.key? (given path targets references) := by
  rw [← items_mergeTree, leavesAt, bodiesAt_merge]
  cases ht : (mergeTree targets references).at? path with
  | none => rfl
  | some t =>
    have hown := filter_isLeaf_toItems (tidy_mergeTree targets references path t ht).1
    simpa using hown

/-- The types of a name right in a module of a merged crate: the last one that the units have. -/
theorem filter_typeName_merge (path : List String) (targets references : List SourceUnit)
    (name : String) :
    ((leavesAt path (merge targets references).items).filter fun i => typeName? i = some name) =
      ((typesOf ⟨path, name⟩ (references ++ targets)).getLast?).toList := by
  refine filter_typeName_of_settled ?_ name
  rw [← leavesAt_merge, List.filter_eq_self]
  exact fun i => isLeaf_of_mem_leavesAt

theorem exists_typeName_merge :
    (∃ i ∈ leavesAt path (merge targets references).items, typeName? i = some name) ↔
      typesOf ⟨path, name⟩ (references ++ targets) ≠ [] := by
  have hkept := filter_typeName_merge path targets references name
  rw [← not_iff_not, not_not, ← List.getLast?_eq_none_iff, ← Option.toList_eq_nil_iff, ← hkept,
    List.filter_eq_nil_iff]
  simp

/-- A struct is kept just if it is the last type of its full name. -/
theorem struct_mem_merge {s : StructDecl} :
    Item.struct s ∈ leavesAt path (merge targets references).items ↔
      (typesOf ⟨path, s.name⟩ (references ++ targets)).getLast? = some (.struct s) := by
  rw [← Option.mem_toList, ← filter_typeName_merge]
  simp [typeName?]

theorem mem_merge_of_key?_eq_none {i : Item} (h : i.key? = none) :
    i ∈ leavesAt path (merge targets references).items ↔ i ∈ leavesOf path targets := by
  have hother : (leavesAt path (merge targets references).items).filter (fun i => i.key? = none) =
      (leavesOf path targets).filter fun i => i.key? = none := by
    rw [leavesAt_merge, filter_none_settled, filter_other_given]
  have hmem := congrArg (i ∈ ·) hother
  simpa [h] using hmem

/-- **The types of a merged crate** are the names of the structs and enums of all units, and of the
unions and aliases of the targets. -/
theorem definesType_merge :
    DefinesType path (merge targets references).items name ↔ Survives targets references path name := by
  constructor
  · rintro ⟨i, hi, hname⟩
    obtain htype | hkey := typeName?_or_key?_of_definedType? hname
    · exact .inl (exists_typeName_merge.1 ⟨i, hi, htype⟩)
    · obtain ⟨u, hu, hi⟩ := List.mem_flatMap.1 ((mem_merge_of_key?_eq_none hkey).1 hi)
      exact .inr ⟨u, hu, i, hi, hname⟩
  · have hkeyed : typesOf ⟨path, name⟩ (references ++ targets) ≠ [] →
        DefinesType path (merge targets references).items name := by
      intro h
      obtain ⟨i, hi, htype⟩ := exists_typeName_merge.2 h
      exact ⟨i, hi, definedType?_of_typeName? htype⟩
    rintro (h | ⟨u, hu, i, hi, hname⟩)
    · exact hkeyed h
    · have hmem : i ∈ leavesOf path targets := List.mem_flatMap.2 ⟨u, hu, hi⟩
      obtain htype | hkey := typeName?_or_key?_of_definedType? hname
      · refine hkeyed (List.ne_nil_of_mem (List.mem_filter.2 ⟨?_, decide_eq_true htype⟩))
        simp only [leavesOf, List.flatMap_append, List.mem_append]
        exact .inr hmem
      · exact ⟨i, (mem_merge_of_key?_eq_none hkey).2 hmem, hname⟩

/-- **A unit stays usable** in a merged crate just if, for each of its structs that is the last type of its
full name, every name that the struct uses and the unit defines next to it survives. -/
theorem staysUsable_merge_iff (unit : SourceUnit) (targets references : List SourceUnit) :
    StaysUsable unit (merge targets references) ↔
      ∀ path s name, Item.struct s ∈ leavesAt path unit.items →
        (typesOf ⟨path, s.name⟩ (references ++ targets)).getLast? = some (.struct s) → s.Uses name →
        DefinesType path unit.items name → Survives targets references path name := by
  simp only [StaysUsable, definesType_merge, struct_mem_merge]

/-- A unit whose types are structs and enums stays usable. -/
theorem staysUsable_of_nominal {unit : SourceUnit} (hunit : unit ∈ references ++ targets)
    (hnominal : ∀ path, ∀ i ∈ leavesAt path unit.items, i.definedType?.isSome → (typeName? i).isSome) :
    StaysUsable unit (merge targets references) := by
  refine fun path s name _ _ _ hname => definesType_merge.2 (.inl ?_)
  obtain ⟨i, hi, hname⟩ := hname
  obtain ⟨other, htype⟩ := Option.isSome_iff_exists.1 (hnominal path i hi (by rw [hname]; rfl))
  obtain rfl : other = name :=
    Option.some.inj ((definedType?_of_typeName? htype).symm.trans hname)
  exact List.ne_nil_of_mem (List.mem_filter.2
    ⟨List.mem_flatMap.2 ⟨unit, hunit, hi⟩, decide_eq_true htype⟩)

/-- Not every reference stays usable: an alias of it is dropped, and a struct that uses it is kept. -/
theorem unusable :
    ¬ ∀ targets references : List SourceUnit, ∀ unit ∈ references,
      StaysUsable unit (merge targets references) := by
  intro h
  let badge : Item :=
    .other (.alias [] .everywhere "Badge" .none (.ofNames false ["u32"]))
  let card : StructDecl := { Synthesis.newStruct "Card" with
    fields := .named [Synthesis.publicField "badge" (.ofNames false ["Badge"])] }
  let unit : SourceUnit := ⟨none, [], [Synthesis.publicModule "shared" [badge, .struct card]]⟩
  have hkept : leavesAt ["shared"] (merge [] [unit]).items = [.struct card] := by
    rw [leavesAt_merge]
    rfl
  obtain ⟨i, hi, hname⟩ := h [] [unit] unit (List.mem_singleton_self unit) ["shared"] card "Badge"
    (List.mem_cons_of_mem _ (List.mem_singleton_self _)) (hkept ▸ List.mem_singleton_self _)
    ⟨.plain "Badge", List.mem_singleton_self _, rfl⟩ ⟨badge, List.mem_cons_self, rfl⟩
  rw [hkept, List.mem_singleton] at hi
  subst hi
  simp [Item.definedType?, card, Synthesis.newStruct] at hname

end Crate

end TypeFoundry
