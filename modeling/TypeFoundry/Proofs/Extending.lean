import TypeFoundry.Proofs.Amending

/-!
# Which types can be extended

A type is found by a search through all modules, but it is extended through the path of its modules, which
leads through the first module of each name. So a type that is found can be extended just if no module of
the name of one around it stands before that one, and if its unit can be laid out
(`addField_found`). In a unit that has one module of each path it always can. Where a module is
repeated, a type in the later of the two is found and cannot be extended (`found_not_extended`).
-/

set_option autoImplicit false

namespace TypeFoundry

open Source Synthesis

namespace Source

variable {name : String}

/-! ## The path that leads back -/

theorem moduleItems_surround {ms : List Surrounding} (h : Clear ms) (inner : List Item) :
    moduleItems? (ms.map (·.head.name)) (surround ms inner) = some inner := by
  induction ms with
  | nil => rfl
  | cons m ms ih =>
    obtain ⟨hm, hms⟩ := List.forall_mem_cons.1 h
    rw [List.map_cons, surround, moduleItems?, List.findSome?_append,
      List.findSome?_eq_none_iff.2 hm, Option.none_or, List.findSome?_cons, Item.itemsOf?, if_pos rfl]
    exact ih hms

theorem locate_append {xs : List Item} (h : locate name xs = none) (ys : List Item) :
    locate name (xs ++ ys) = locate name ys := by
  induction xs with
  | nil => rfl
  | cons x xs ih =>
    rw [locate_eq_none, List.forall_mem_cons, ← locate_eq_none] at h
    rw [List.cons_append, locate, h.1]
    exact ih h.2

namespace Place.First

variable {p : Place}

/-- The first struct of a name is what a search for the name finds. -/
theorem locate (h : p.First name) : locate name p.items = some (p.modules, p.struct) := by
  obtain ⟨around, before, s, after⟩ := p
  obtain ⟨hnamed, haround, hbefore⟩ := h
  dsimp only [Place.items, Place.modules, Place.put] at *
  induction around with
  | nil =>
    rw [surround, locate_append hbefore, Source.locate, Item.locate, if_pos hnamed]
    rfl
  | cons m ms ih =>
    obtain ⟨hm, hms⟩ := List.forall_mem_cons.1 haround
    rw [surround, locate_append hm, Source.locate, Item.locate, ih hms]
    rfl

theorem findSome_put (h : p.First name) :
    (p.put p.struct).findSome? (Item.structNamed? name) = some p.struct := by
  rw [Place.put, List.findSome?_append, findSome_of_locate_none h.before, Option.none_or,
    List.findSome?_cons, Item.structNamed?, if_pos h.named]

/-- **The path of a struct** leads back to its module just if no module of a name on the path stands
before. -/
theorem leads_iff (h : p.First name) :
    moduleItems? p.modules p.items = some (p.put p.struct) ↔ Clear p.around := by
  refine ⟨fun hbody => h.leads hbody ?_, fun hclear => moduleItems_surround hclear _⟩
  rw [h.findSome_put]
  exact Option.some_ne_none _

end Place.First

/-- Where each path leads to one module at most, no module stands before another of its name. -/
theorem OneEach.clear {ms : List Surrounding} {inner : List Item}
    (h : OneEach (surround ms inner)) : Clear ms := by
  induction ms with
  | nil => exact fun m hm => nomatch hm
  | cons m ms ih =>
    have hone : ((surround (m :: ms) inner).filterMap (Item.itemsOf? m.head.name)).length ≤ 1 := by
      simpa [bodiesAt] using h [m.head.name]
    rw [surround, List.filterMap_append, List.filterMap_cons, Item.itemsOf?, if_pos rfl,
      List.length_append, List.length_cons] at hone
    have hbefore : m.before.filterMap (Item.itemsOf? m.head.name) = [] :=
      List.length_eq_zero_iff.1 (by omega)
    have hafter : m.after.filterMap (Item.itemsOf? m.head.name) = [] :=
      List.length_eq_zero_iff.1 (by omega)
    rw [List.filterMap_eq_nil_iff] at hbefore hafter
    have hsplits : Splits m.head.name (surround (m :: ms) inner) m.before m.head
      (surround ms inner) m.after := ⟨rfl, rfl, hbefore, hafter⟩
    exact List.forall_mem_cons.2 ⟨hbefore, ih (hsplits.oneEach h)⟩

/-! ## Units that can be laid out -/

theorem areFinished_append (xs ys : List Item) :
    areFinished (xs ++ ys) = (areFinished xs && areFinished ys) := by
  induction xs with
  | nil => rfl
  | cons x xs ih => rw [List.cons_append, areFinished, areFinished, ih, Bool.and_assoc]

theorem areFinished_surround {xs ys : List Item} (h : areFinished xs = areFinished ys)
    (ms : List Surrounding) : areFinished (surround ms xs) = areFinished (surround ms ys) := by
  induction ms with
  | nil => exact h
  | cons m ms ih =>
    simp only [surround, areFinished_append, areFinished, Item.isFinished, ih]

end Source

namespace Synthesis

theorem Imported.areFinished_eq {items out : List Item} {needed : Option UseDecl}
    (h : Imported items needed out) : areFinished out = areFinished items := by
  cases h with
  | unneeded => rfl
  | there => rfl
  | inserted _ hsplit => rw [hsplit, areFinished_append, areFinished_append]; rfl

/-! ## Fields that can be declared -/

section

variable {typeName : String} {r : FieldRequest} {resolve : TypePath → Option TypePath}
  {unit : SourceUnit} {source : String}

/-- The field has a type: it is of a built-in one, or of one that is known under a plain name. -/
def Typed (resolve : TypePath → Option TypePath) (r : FieldRequest) : Prop :=
  r.kind = .reference → ∃ target, referred? resolve r = some target ∧ ∀ w ∈ target.segments, IsPlain w

theorem Typed.fieldType (h : Typed resolve r) (modules : List String) :
    ∃ type needed, fieldType resolve modules r = .ok (type, needed) := by
  rw [Synthesis.fieldType]
  cases hkind : primitiveName? r.kind with
  | some name => exact ⟨_, _, rfl⟩
  | none =>
    obtain ⟨target, htarget, hplain⟩ := h (primitiveName_eq_none.1 hkind)
    have hrequested : (Text.trim (r.target.getD "")).isEmpty = false := by
      by_contra hempty
      rw [Bool.not_eq_false, String.isEmpty_iff] at hempty
      rw [referred?, hempty, show TypePath.parse "" = none by decide +kernel] at htarget
      cases htarget
    have huse : ∀ w ∈ target.segments, isUseName w = true :=
      fun w hw => isUseName_of_isPlain (hplain w hw)
    have hpath : target.segments.all isPathName = true :=
      List.all_eq_true.2 fun w hw => (Bool.and_eq_true_iff.1 (huse w hw)).1
    have hmodules : target.modules.all isUseName = true :=
      List.all_eq_true.2 fun w hw => huse w (List.mem_append_left _ hw)
    rw [referred?] at htarget
    simp only [hrequested, htarget, hpath, hmodules, Bool.not_true, Bool.false_eq_true, ↓reduceIte]
    split
    · exact ⟨_, _, rfl⟩
    · exact ⟨_, _, rfl⟩

/-! ## Extending what is found -/

/-- What comes of a field that can be declared depends on where the path of the struct leads. -/
theorem addFieldTo_eq {path : List String} {s : StructDecl} {fields : List Field} {type : Ty}
    {needed : Option UseDecl} (hlocated : locate typeName unit.items = some (path, s))
    (hfields : s.fields = .named fields) (hnew : ∀ g ∈ fields, g.name ≠ r.name)
    (hname : isIdentifier r.name = true) (htype : fieldType resolve path r = .ok (type, needed)) :
    addFieldTo unit typeName r resolve =
      match moduleItems? path unit.items with
      | none => .error (.failure (.malformed typeName .noModule))
      | some body =>
        match body.findSome? (Item.structNamed? typeName) with
        | none => .error (.failure (.malformed typeName .noStruct))
        | some _ => .ok { unit with
            items := modifyModule (editItems typeName (publicField r.name type) needed) path unit.items } := by
  have hany : (fields.any fun g => decide (g.name = r.name)) = false := by simpa using hnew
  simp only [addFieldTo, SourceUnit.structNamed, hlocated, Except.mapError, bind, Except.bind, hfields,
    hany, htype, hname]
  cases moduleItems? path unit.items with
  | none => rfl
  | some body =>
    dsimp only
    cases body.findSome? (Item.structNamed? typeName) <;> rfl

/-- A further field makes no unit unfinished, and finishes none. -/
theorem areFinished_of_addFieldTo {edited : SourceUnit}
    (h : addFieldTo unit typeName r resolve = .ok edited) :
    areFinished edited.items = areFinished unit.items := by
  obtain ⟨path, s, fields, type, needed, body, hlocated, -, -, -, hbody, hstruct, rfl⟩ :=
    addFieldTo_located h
  obtain ⟨p, hfirst, hitems, rfl, rfl⟩ := exists_place hlocated
  rw [← hitems] at hbody ⊢
  have hclear := hfirst.leads hbody hstruct
  have hbefore := List.findSome?_eq_none_iff.1 (findSome_of_locate_none hfirst.before)
  obtain rfl := hfirst.named
  have himported := imported_editItems needed (publicField r.name type) p.after hbefore
  rw [Place.items, Place.modules, modifyModule_surround hclear]
  refine areFinished_surround ?_ _
  rw [Place.put, himported.areFinished_eq, areFinished_append, areFinished_append]
  rfl

section

variable {p : Place} {fields : List Field}

/-- Through a path that leads back, the struct that is found gets the field. -/
theorem addFieldTo_clear (hfirst : p.First typeName) (hitems : p.items = unit.items)
    (hclear : Clear p.around) (hfields : p.struct.fields = .named fields)
    (hnew : ∀ g ∈ fields, g.name ≠ r.name) (hname : isIdentifier r.name = true)
    (htyped : Typed resolve r) : ∃ edited, addFieldTo unit typeName r resolve = .ok edited ∧
      areFinished edited.items = areFinished unit.items := by
  obtain ⟨type, needed, htype⟩ := htyped.fieldType p.modules
  have hbody := hfirst.leads_iff.2 hclear
  rw [hitems] at hbody
  have hedited := addFieldTo_eq (hitems ▸ hfirst.locate) hfields hnew hname htype
  rw [hbody] at hedited
  dsimp only at hedited
  rw [hfirst.findSome_put] at hedited
  exact ⟨_, hedited, areFinished_of_addFieldTo hedited⟩

/-- A path that leads elsewhere ends without a module, or in one without a struct of the name. -/
theorem addFieldTo_astray (hfirst : p.First typeName) (hitems : p.items = unit.items)
    (hclear : ¬ Clear p.around) (hfields : p.struct.fields = .named fields)
    (hnew : ∀ g ∈ fields, g.name ≠ r.name) (hname : isIdentifier r.name = true)
    (htyped : Typed resolve r) : ∃ fault, (fault = .noModule ∨ fault = .noStruct) ∧
      addFieldTo unit typeName r resolve = .error (.failure (.malformed typeName fault)) := by
  obtain ⟨type, needed, htype⟩ := htyped.fieldType p.modules
  rw [addFieldTo_eq (hitems ▸ hfirst.locate) hfields hnew hname htype]
  cases hbody : moduleItems? p.modules unit.items with
  | none => exact ⟨.noModule, .inl rfl, rfl⟩
  | some body =>
    have hnone : body.findSome? (Item.structNamed? typeName) = none := by
      by_contra hstruct
      exact hclear (hfirst.leads (hitems ▸ hbody) hstruct)
    dsimp only
    rw [hnone]
    exact ⟨.noStruct, .inr rfl, rfl⟩

end

theorem exists_located (hread : SourceUnit.read source = .ok unit) {path : TypePath}
    (hpath : typePath source typeName = .ok path) :
    ∃ modules s, locate typeName unit.items = some (modules, s) ∧ path = ⟨modules, typeName⟩ ∧
      declaredFields source typeName = .ok (s.namedFields.map fun f => (f.name, f.type.packed)) := by
  simp only [typePath, declaredFields, SourceUnit.readFor, hread, SourceUnit.structNamed, bind,
    Except.bind] at hpath ⊢
  cases hlocated : locate typeName unit.items with
  | none => rw [hlocated] at hpath; cases hpath
  | some found =>
    rw [hlocated] at hpath
    obtain rfl := Except.ok.inj hpath
    exact ⟨found.1, found.2, rfl, rfl, rfl⟩

/-- **What is found can be extended** if the path of its modules leads back to it.

The type that is found is the first struct of the name. The path leads back to its module just if
no module of a name on the path stands before, as is so where each path leads to one module at most. Any
further field that can be declared is then added if the unit can be laid out, and else the request is
aborted; where the path leads astray, the unit is called malformed. -/
theorem addField_found (hread : SourceUnit.read source = .ok unit) {path : TypePath}
    (hpath : typePath source typeName = .ok path) :
    ∃ p : Place, p.First typeName ∧ p.items = unit.items ∧ path = ⟨p.modules, typeName⟩ ∧
      declaredFields source typeName =
        .ok (p.struct.namedFields.map fun f => (f.name, f.type.packed)) ∧
      (moduleItems? p.modules unit.items = some (p.put p.struct) ↔ Clear p.around) ∧
      (OneEach unit.items → Clear p.around) ∧
      ∀ fields r resolve, p.struct.fields = .named fields → (∀ g ∈ fields, g.name ≠ r.name) →
        IsPlain r.name → Typed resolve r →
        ((∃ text, addField source typeName r resolve = .ok text) ↔
          Clear p.around ∧ areFinished unit.items = true) ∧
        (¬ Clear p.around → ∃ fault, (fault = .noModule ∨ fault = .noStruct) ∧
          addField source typeName r resolve = .error (.failure (.malformed typeName fault))) ∧
        (Clear p.around → areFinished unit.items = false →
          addField source typeName r resolve = .error .aborted) := by
  obtain ⟨modules, s, hlocated, rfl, hdeclared⟩ := exists_located hread hpath
  obtain ⟨p, hfirst, hitems, rfl, rfl⟩ := exists_place hlocated
  refine ⟨p, hfirst, hitems, rfl, hdeclared, hitems ▸ hfirst.leads_iff, fun hone => ?_,
    fun fields r resolve hfields hnew hname htyped => ?_⟩
  · rw [← hitems] at hone
    exact hone.clear
  rw [addField_eq hread]
  by_cases hclear : Clear p.around
  · obtain ⟨edited, hedited, hfinished⟩ :=
      addFieldTo_clear hfirst hitems hclear hfields hnew hname.isIdentifier htyped
    rw [hedited, ← hfinished]
    simp only [Except.bind]
    cases areFinished edited.items with
    | true => simp [hclear]
    | false => simp [hclear]
  · obtain ⟨fault, hfault, herror⟩ :=
      addFieldTo_astray hfirst hitems hclear hfields hnew hname.isIdentifier htyped
    rw [herror]
    refine ⟨?_, fun _ => ⟨fault, hfault, rfl⟩, fun h => absurd h hclear⟩
    simp [hclear, Except.bind]

theorem exists_named_of_namedFields {s : StructDecl} {names : List String}
    (h : s.namedFields.map (·.name) = names) (hne : names ≠ []) :
    ∃ fields, s.fields = .named fields ∧ fields.map (·.name) = names := by
  cases hfields : s.fields with
  | named fields =>
    rw [StructDecl.namedFields, hfields] at h
    exact ⟨fields, rfl, h⟩
  | _ =>
    rw [StructDecl.namedFields, hfields] at h
    exact absurd h.symm hne

/-- A module that is repeated behind the one of the type is not in the way of a reference. -/
theorem addField_found_before :
    let source := "mod a { mod b { struct T { id: u32 } } mod b { } } mod a { const N: u8 = 0; }"
    let r : FieldRequest := ⟨"next", .reference, some "c::B"⟩
    ∃ (unit : SourceUnit) (p : Place), SourceUnit.read source = .ok unit ∧ p.items = unit.items ∧
      p.modules = ["a", "b"] ∧ Clear p.around ∧ areFinished unit.items = true ∧
      ∃ text, addField source "T" r some = .ok text := by
  intro source r
  have hevaluated : (SourceUnit.read source).toOption.bind (fun unit =>
      (locate "T" unit.items).map fun found => (found.1, found.2.namedFields.map (·.name),
        areFinished unit.items, (addFieldTo unit "T" r some).toOption.isSome)) =
        some (["a", "b"], ["id"], true, true) := by
    decide +kernel
  obtain ⟨unit, hread, hevaluated⟩ := Option.bind_eq_some_iff.1 hevaluated
  obtain ⟨⟨_, s⟩, hlocated, hevaluated⟩ := Option.map_eq_some_iff.1 hevaluated
  simp only [Prod.mk.injEq] at hevaluated
  obtain ⟨rfl, hids, hfinished, hsome⟩ := hevaluated
  rw [toOption_eq_some] at hread
  have hpath : typePath source "T" = .ok ⟨["a", "b"], "T"⟩ := by
    simp only [typePath, SourceUnit.readFor, hread, SourceUnit.structNamed, bind, Except.bind, hlocated]
    rfl
  have hplain : ∀ w ∈ ["next", "c", "B"], IsPlain w := by
    intro w hw
    refine ⟨?_, ?_⟩ <;> revert w <;> decide +kernel
  have htyped : Typed some r :=
    fun _ => ⟨⟨["c"], "B"⟩, by decide +kernel, fun w hw => hplain w (List.mem_cons_of_mem _ hw)⟩
  obtain ⟨p, hfirst, hitems, hmodules, -, -, -, hextended⟩ := addField_found hread hpath
  obtain rfl : p.struct = s := by
    have hfound := hfirst.locate
    rw [hitems, hlocated] at hfound
    exact (congrArg Prod.snd (Option.some.inj hfound)).symm
  obtain ⟨fields, hnamed, hnames⟩ := exists_named_of_namedFields hids (by simp)
  have hnew : ∀ g ∈ fields, g.name ≠ r.name := by
    intro g hg
    have hid : g.name ∈ ["id"] := hnames ▸ List.mem_map_of_mem hg
    rw [List.mem_singleton.1 hid]
    decide
  obtain ⟨hadded, hastray, -⟩ := hextended fields r some hnamed hnew (hplain "next" (by simp)) htyped
  have hclear : Clear p.around := by
    by_contra hclear
    obtain ⟨fault, -, hfault⟩ := hastray hclear
    rw [(addField_failure hread _).1 hfault] at hsome
    cases hsome
  exact ⟨unit, p, hread, hitems, (congrArg TypePath.modules hmodules).symm, hclear, hfinished,
    hadded.2 ⟨hclear, hfinished⟩⟩

/-- **Not everything that is found can be extended**: the path to a type in a module that is repeated
leads to the first one. -/
theorem found_not_extended : ¬ ∀ (source typeName : String) (unit : SourceUnit) (path : List String)
    (s : StructDecl) (fields : List Field) (r : FieldRequest) (resolve : TypePath → Option TypePath),
    SourceUnit.read source = .ok unit → locate typeName unit.items = some (path, s) →
    s.fields = .named fields → (∀ g ∈ fields, g.name ≠ r.name) → IsPlain r.name → Typed resolve r →
    ∃ text, addField source typeName r resolve = .ok text := by
  intro h
  let source := "mod a { } mod a { struct T { id: u32 } }"
  let r : FieldRequest := ⟨"size", .int, none⟩
  have hevaluated : (SourceUnit.read source).toOption.bind (fun unit =>
      (locate "T" unit.items).map fun found => (found.2.namedFields.map (·.name),
        (addFieldTo unit "T" r some).toOption.isSome)) = some (["id"], false) := by
    decide +kernel
  obtain ⟨unit, hread, hevaluated⟩ := Option.bind_eq_some_iff.1 hevaluated
  obtain ⟨⟨path, s⟩, hlocated, hevaluated⟩ := Option.map_eq_some_iff.1 hevaluated
  obtain ⟨hids, hrefused⟩ := Prod.mk.inj hevaluated
  rw [toOption_eq_some] at hread
  obtain ⟨fields, hfields, hnames⟩ := exists_named_of_namedFields hids (by simp)
  have hnew : ∀ g ∈ fields, g.name ≠ r.name := by
    intro g hg
    have hid : g.name ∈ ["id"] := hnames ▸ List.mem_map_of_mem hg
    rw [List.mem_singleton.1 hid]
    decide
  have hplain : IsPlain r.name := ⟨by decide +kernel, by decide +kernel⟩
  obtain ⟨text, htext⟩ := h source "T" unit path s fields r some hread hlocated hfields hnew hplain
    (fun hkind => nomatch hkind)
  rw [addField_eq hread] at htext
  cases hedited : addFieldTo unit "T" r some with
  | error e => rw [hedited] at htext; cases htext
  | ok edited => rw [hedited] at hrefused; cases hrefused

end

end Synthesis

end TypeFoundry
