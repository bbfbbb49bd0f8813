import TypeFoundry.Crate.Describe
import TypeFoundry.Proofs.Merging

/-!
# The described structs in the crate

The structs to be described are those that the targets define, while the crate has of each full name
the last type that defines it. So a described struct is in the crate just if the last type of its full
name has its fields (`provides_merge_iff`), as it has if the full name is not defined twice
(`provides_of_single`). Two targets that define one full name with different fields make a crate that
measures fields it does not have (`unprovided`).
-/

set_option autoImplicit false

namespace TypeFoundry

open Source Crate

namespace Source

/-! ## Leaves of a list of items -/

theorem leavesAt_nil (path : List String) : leavesAt path [] = [] := by
  cases path <;> rfl

theorem leavesAt_cons (path : List String) (i : Item) (is : List Item) :
    leavesAt path (i :: is) = leavesAt path [i] ++ leavesAt path is := by
  cases path with
  | nil =>
    simp only [leavesAt, bodiesAt, List.flatMap_cons, List.flatMap_nil, List.append_nil]
    rw [← List.filter_append, List.singleton_append]
  | cons name path =>
    simp only [leavesAt, bodiesAt]
    rw [← List.flatMap_append, ← List.flatMap_append, ← List.filterMap_append, List.singleton_append]

theorem mem_leavesAt_leaf {i j : Item} (h : i.isLeaf = true) {path : List String} :
    j ∈ leavesAt path [i] ↔ path = [] ∧ j = i := by
  cases path with
  | nil => simp [leavesAt, bodiesAt, h]
  | cons name path => simp [leavesAt, bodiesAt, itemsOf?_eq_none h]

theorem leavesAt_module (head : ModuleHead) (items : List Item) (path : List String) :
    leavesAt path [.module head items] =
      match path with
      | [] => []
      | name :: path => if head.name = name then leavesAt path items else [] := by
  cases path with
  | nil => simp [leavesAt, bodiesAt, Item.isLeaf]
  | cons name path =>
    by_cases h : head.name = name <;> simp [leavesAt, bodiesAt, Item.itemsOf?, h]

end Source

namespace Crate

/-! ## Structs to be described -/

/-- The struct as one to be described. -/
def Described.ofStruct (modules : List String) (s : StructDecl) : Described :=
  ⟨⟨modules, s.name⟩, s.namedFields.map fun f => (f.name, f.type)⟩

mutual

theorem mem_describedIn {modules : List String} {i : Item} {d : Described} :
    d ∈ describedIn modules i ↔ ∃ path s, Item.struct s ∈ leavesAt path [i] ∧
      s.generics.params.isEmpty = true ∧ d = .ofStruct (modules ++ path) s := by
  cases i with
  | module head items =>
    rw [describedIn, mem_describedAll]
    constructor
    · rintro ⟨path, s, hs, hplain, rfl⟩
      refine ⟨head.name :: path, s, ?_, hplain, by simp⟩
      simpa [leavesAt_module] using hs
    · rintro ⟨path, s, hs, hplain, rfl⟩
      rw [leavesAt_module] at hs
      cases path with
      | nil => cases hs
      | cons name path =>
        simp only at hs
        split at hs
        · rename_i hname
          exact ⟨path, s, hs, hplain, by simp [hname]⟩
        · cases hs
  | struct t =>
    have hleaf : (Item.struct t).isLeaf = true := rfl
    simp only [describedIn, mem_leavesAt_leaf hleaf, Item.struct.injEq]
    constructor
    · intro hd
      split at hd
      · rename_i hplain
        obtain rfl := List.mem_singleton.1 hd
        exact ⟨[], t, ⟨rfl, rfl⟩, hplain, by simp [Described.ofStruct]⟩
      · cases hd
    · rintro ⟨path, s, ⟨rfl, rfl⟩, hplain, rfl⟩
      simp [hplain, Described.ofStruct]
  | use u => simp [describedIn, mem_leavesAt_leaf (show (Item.use u).isLeaf = true from rfl)]
  | enum e => simp [describedIn, mem_leavesAt_leaf (show (Item.enum e).isLeaf = true from rfl)]
  | other e => simp [describedIn, mem_leavesAt_leaf (show (Item.other e).isLeaf = true from rfl)]

/-- The structs to be described are those without parameters right in some module. -/
theorem mem_describedAll {modules : List String} {items : List Item} {d : Described} :
    d ∈ describedAll modules items ↔ ∃ path s, Item.struct s ∈ leavesAt path items ∧
      s.generics.params.isEmpty = true ∧ d = .ofStruct (modules ++ path) s := by
  cases items with
  | nil => simp [describedAll, leavesAt_nil]
  | cons i is =>
    rw [describedAll, List.mem_append, mem_describedIn, mem_describedAll]
    simp only [leavesAt_cons _ i is, List.mem_append, or_and_right, exists_or]

end

theorem mem_described {units : List SourceUnit} {d : Described} :
    d ∈ described units ↔ ∃ s, Item.struct s ∈ leavesOf d.path.modules units ∧
      s.generics.params.isEmpty = true ∧ d = .ofStruct d.path.modules s := by
  simp only [described, leavesOf, List.mem_flatMap, mem_describedAll, List.nil_append]
  constructor
  · rintro ⟨u, hu, path, s, hs, hplain, rfl⟩
    exact ⟨s, ⟨u, hu, hs⟩, hplain, rfl⟩
  · rintro ⟨s, ⟨u, hu, hs⟩, hplain, hd⟩
    exact ⟨u, hu, d.path.modules, s, hs, hplain, hd⟩

/-! ## Whether the crate has them -/

/-- The types of that full name that the units define, in their order. -/
def typesOf (path : TypePath) (units : List SourceUnit) : List Item :=
  (leavesOf path.modules units).filter fun i => typeName? i = some path.name

theorem typesOf_append (path : TypePath) (us vs : List SourceUnit) :
    typesOf path (us ++ vs) = typesOf path us ++ typesOf path vs := by
  rw [typesOf, leavesOf, List.flatMap_append, List.filter_append]
  rfl

/-- Whether the item is a struct without parameters that has the fields. -/
def Item.Has (fields : List (String × Ty)) : Item → Prop
  | .struct s => s.generics.params.isEmpty = true ∧
      ∀ f ∈ fields, f ∈ s.namedFields.map fun f => (f.name, f.type)
  | _ => False

/-- The crate provides the struct: its module has one of that name, without parameters and with all of
the fields. -/
def Provides (crate : SourceUnit) (d : Described) : Prop :=
  ∃ body ∈ bodiesAt d.path.modules crate.items, ∃ i ∈ body,
    typeName? i = some d.path.name ∧ Item.Has d.fields i

theorem bodiesAt_ne_nil_of_mem_leavesOf {path : List String} {units : List SourceUnit} {i : Item}
    (h : i ∈ leavesOf path units) : ∃ u ∈ units, bodiesAt path u.items ≠ [] := by
  obtain ⟨u, hu, hi⟩ := List.mem_flatMap.1 h
  obtain ⟨body, hbody, -⟩ := List.mem_flatMap.1 hi
  exact ⟨u, hu, List.ne_nil_of_mem hbody⟩

section

variable {targets references : List SourceUnit}

/-- The module of a type has the last type of its name, and no other. -/
theorem types_merge {path : TypePath} (h : typesOf path (references ++ targets) ≠ []) :
    ∃ body, bodiesAt path.modules (merge targets references).items = [body] ∧
      (body.filter fun i => typeName? i = some path.name) =
        [(typesOf path (references ++ targets)).getLast h] := by
  obtain ⟨i, hi⟩ := List.exists_mem_of_ne_nil _ h
  obtain ⟨t, -, hbody, hown⟩ :=
    module_merge (.inr (bodiesAt_ne_nil_of_mem_leavesOf (List.mem_filter.1 hi).1))
  refine ⟨t.toItems, hbody, ?_⟩
  rw [filter_typeName_of_settled hown, ← typesOf, List.getLast?_eq_some_getLast h]
  rfl

theorem typesOf_ne_nil {d : Described} (h : d ∈ described targets) :
    typesOf d.path targets ≠ [] := by
  obtain ⟨s, hs, -, hd⟩ := mem_described.1 h
  refine List.ne_nil_of_mem (List.mem_filter.2 ⟨hs, ?_⟩)
  rw [hd]
  simp [typeName?, Described.ofStruct]

/-- The crate provides a struct if the last type of its full name does. -/
theorem provides_of_last {d : Described} (h : typesOf d.path (references ++ targets) ≠ []) :
    Provides (merge targets references) d ↔
      Item.Has d.fields ((typesOf d.path (references ++ targets)).getLast h) := by
  obtain ⟨body, hbody, htypes⟩ := types_merge h
  have hmem : ∀ i, i ∈ body ∧ typeName? i = some d.path.name ↔
      i = (typesOf d.path (references ++ targets)).getLast h := by
    intro i
    have := @List.mem_filter _ (fun i => decide (typeName? i = some d.path.name)) body i
    rw [htypes, List.mem_singleton, decide_eq_true_iff] at this
    exact this.symm
  simp only [Provides, hbody, List.mem_singleton, exists_eq_left, ← and_assoc, hmem]

/-- Types of the targets are last, if there are any. -/
theorem provides_of_last_target {d : Described} (h : typesOf d.path targets ≠ []) :
    Provides (merge targets references) d ↔
      Item.Has d.fields ((typesOf d.path targets).getLast h) := by
  have hall : typesOf d.path (references ++ targets) ≠ [] := by
    rw [typesOf_append]
    exact List.append_ne_nil_of_right_ne_nil _ h
  have hlast : (typesOf d.path (references ++ targets)).getLast hall =
      (typesOf d.path targets).getLast h := by
    simp only [typesOf_append]
    exact List.getLast_append_right h
  rw [provides_of_last hall, hlast]

/-- A described struct is in the crate if the targets define its full name once. -/
theorem provides_of_single {d : Described} (h : d ∈ described targets)
    (hsingle : (typesOf d.path targets).length = 1) : Provides (merge targets references) d := by
  obtain ⟨s, hs, hplain, hd⟩ := mem_described.1 h
  have hmem : Item.struct s ∈ typesOf d.path targets := by
    refine List.mem_filter.2 ⟨hs, ?_⟩
    rw [hd]
    simp [typeName?, Described.ofStruct]
  rw [provides_of_last_target (List.ne_nil_of_mem hmem)]
  obtain ⟨i, hi⟩ := List.length_eq_one_iff.1 hsingle
  have hlast : (typesOf d.path targets).getLast (List.ne_nil_of_mem hmem) = .struct s := by
    simp only [hi, List.mem_singleton] at hmem
    simp only [hi, hmem, List.getLast_singleton]
  rw [hlast]
  refine ⟨hplain, fun f hf => ?_⟩
  rw [hd] at hf
  exact hf

/-- **A described struct is in the crate** just if the last type of its full name among the targets is a
struct without parameters that has all of its fields. -/
theorem provides_merge_iff {d : Described} (h : d ∈ described targets) :
    Provides (merge targets references) d ↔
      ∃ i, (typesOf d.path targets).getLast? = some i ∧ Item.Has d.fields i := by
  have htargets := typesOf_ne_nil h
  rw [provides_of_last_target htargets, List.getLast?_eq_some_getLast htargets]
  simp

/-- The unit of a struct of one field. -/
def unitOf (name field type : String) : SourceUnit :=
  ⟨none, [], [.struct { Synthesis.newStruct name with
    fields := .named [Synthesis.publicField field (.ofNames false [type])] }]⟩

theorem provides_merge_iff_item :
    let d : Described := ⟨⟨[], "Item"⟩, [("size", .ofNames false ["u8"])]⟩
    d ∈ described [unitOf "Item" "size" "u8"] ∧
      Provides (merge [unitOf "Item" "size" "u8"] [unitOf "Item" "age" "u8"]) d := by
  intro d
  have hd : d ∈ described [unitOf "Item" "size" "u8"] := List.mem_singleton.2 rfl
  exact ⟨hd, (provides_merge_iff hd).2 ⟨_, rfl, rfl, fun f hf => hf⟩⟩

/-- Not every struct to be described is in the crate: a later target may define the name again. -/
theorem unprovided :
    ¬ ∀ (targets references : List SourceUnit), ∀ d ∈ described targets,
      Provides (merge targets references) d := by
  intro h
  let targets := [unitOf "Item" "size" "u8", unitOf "Item" "age" "u8"]
  let d : Described := ⟨⟨[], "Item"⟩, [("size", .ofNames false ["u8"])]⟩
  have hd : d ∈ described targets := List.mem_cons_self
  have htypes : typesOf d.path ([] ++ targets) ≠ [] := by
    exact List.cons_ne_nil _ _
  obtain ⟨-, hfields⟩ := (provides_of_last htypes).1 (h targets [] d hd)
  have hsize : ("size", Ty.ofNames false ["u8"]) ∈ [("age", Ty.ofNames false ["u8"])] :=
    hfields _ (List.mem_singleton_self _)
  simp at hsize

end

end Crate

end TypeFoundry
