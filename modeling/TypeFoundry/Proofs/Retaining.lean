import Mathlib.Data.List.Forall2
import TypeFoundry.Compiler
import TypeFoundry.Proofs.Presence
import TypeFoundry.Synthesis.AddField

/-!
# Changes that keep the types

Describing a crate and adding a field change items deep inside a unit, but no type comes or goes.
`LooksLike view xs ys` says that two lists of items have the same modules and that a view shows the
same in each of them. A change of one module is seen in that module only (`looksLike_modifyModule`). So
the crate that is handed over has the types of the merged units (`types_crateOf`), and a unit with a
further field those that it had (`addFieldTo_looksLike`).
-/

set_option autoImplicit false

namespace TypeFoundry

open Source Crate Synthesis

namespace Source

section

variable {γ : Type} (view : Item → Option γ)

/-- Both lists have the same modules, and the view shows the same in each of them. -/
def LooksLike (xs ys : List Item) : Prop :=
  ∀ path, List.Forall₂ (fun b c => b.filterMap view = c.filterMap view) (bodiesAt path xs)
    (bodiesAt path ys)

/-- The view shows the same of both items, and they are modules that look alike if they are modules. -/
structure Item.LooksLike (i j : Item) : Prop where
  same : view i = view j
  inner : ∀ name, Option.Rel (Source.LooksLike view) (i.itemsOf? name) (j.itemsOf? name)

variable {view} {xs ys zs : List Item}

theorem LooksLike.refl (xs : List Item) : LooksLike view xs xs := fun _ =>
  List.forall₂_same.2 fun _ _ => rfl

theorem LooksLike.symm (h : LooksLike view xs ys) : LooksLike view ys xs := fun path =>
  ((h path).imp fun _ _ => Eq.symm).flip

theorem LooksLike.trans (h : LooksLike view xs ys) (h' : LooksLike view ys zs) :
    LooksLike view xs zs := by
  intro path
  have hpath := h path
  have hpath' := h' path
  generalize bodiesAt path xs = bs at hpath
  generalize bodiesAt path ys = cs at hpath hpath'
  generalize bodiesAt path zs = ds at hpath'
  induction hpath generalizing ds with
  | nil =>
    cases hpath'
    exact .nil
  | cons hb _ ih =>
    cases hpath' with
    | cons hc hrest => exact .cons (hb.trans hc) (ih _ hrest)

/-- A module of the second has its like in the first. -/
theorem LooksLike.exists_body (h : LooksLike view xs ys) {path : List String} {body : List Item}
    (hbody : body ∈ bodiesAt path ys) :
    ∃ body' ∈ bodiesAt path xs, body'.filterMap view = body.filterMap view := by
  have hpath := h path
  generalize bodiesAt path xs = bs at hpath
  generalize bodiesAt path ys = cs at hpath hbody
  induction hpath with
  | nil => cases hbody
  | cons hb _ ih =>
    obtain rfl | hbody := List.mem_cons.1 hbody
    · exact ⟨_, List.mem_cons_self, hb⟩
    · obtain ⟨body', hbody', hsame⟩ := ih hbody
      exact ⟨body', List.mem_cons_of_mem _ hbody', hsame⟩

theorem Item.LooksLike.refl (i : Item) : i.LooksLike view i := by
  refine ⟨rfl, fun name => ?_⟩
  cases i.itemsOf? name with
  | none => exact .none
  | some items => exact .some (Source.LooksLike.refl items)

/-- Lists look alike if their items do, one by one. -/
theorem looksLike_of_forall₂ (h : List.Forall₂ (Item.LooksLike view) xs ys) : LooksLike view xs ys := by
  intro path
  cases path with
  | nil =>
    refine .cons ?_ .nil
    induction h with
    | nil => rfl
    | cons hij _ ih => rw [List.filterMap_cons, List.filterMap_cons, hij.same, ih]
  | cons name path =>
    rw [bodiesAt, bodiesAt]
    induction h with
    | nil => exact .nil
    | @cons i j is js hij _ ih =>
      rw [List.filterMap_cons, List.filterMap_cons]
      have hinner := hij.inner name
      revert hinner
      cases i.itemsOf? name <;> cases j.itemsOf? name <;> intro hinner
      · exact ih
      · cases hinner
      · cases hinner
      · obtain ⟨hinner⟩ := hinner
        exact List.rel_append (hinner path) ih

/-- Items that are no modules can be added where the view shows nothing of them. -/
theorem looksLike_of_filterMap (hview : xs.filterMap view = ys.filterMap view)
    (hmodules : ∀ name, xs.filterMap (Item.itemsOf? name) = ys.filterMap (Item.itemsOf? name)) :
    LooksLike view xs ys := by
  intro path
  cases path with
  | nil => exact .cons hview .nil
  | cons name path =>
    rw [bodiesAt, bodiesAt, hmodules]
    exact LooksLike.refl ys (name :: path)

/-! ## Changes -/

/-- A list looks as before if the element that is changed does. -/
theorem looksLike_changeFirst {change : Item → Option Item}
    (h : ∀ i j, change i = some j → i.LooksLike view j) (items : List Item) :
    LooksLike view items (changeFirst change items) := by
  refine looksLike_of_forall₂ ?_
  induction items with
  | nil => exact .nil
  | cons i is ih =>
    unfold changeFirst
    split
    · rename_i j hj
      exact .cons (h i j hj) (List.forall₂_same.2 fun k _ => Item.LooksLike.refl k)
    · exact .cons (Item.LooksLike.refl i) ih

/-- **A change of a module** is seen in that module only. -/
theorem looksLike_modifyModule (hview : ∀ head items, view (.module head items) = none)
    {change : List Item → List Item} (hchange : ∀ items, LooksLike view items (change items))
    (path : List String) (items : List Item) :
    LooksLike view items (modifyModule change path items) := by
  induction path generalizing items with
  | nil => exact hchange items
  | cons name path ih =>
    refine looksLike_changeFirst ?_ items
    intro i j hj
    split at hj
    · rename_i head inner
      split at hj
      · obtain rfl := Option.some.inj hj
        refine ⟨(hview _ _).trans (hview _ _).symm, fun other => ?_⟩
        rw [Item.itemsOf?, Item.itemsOf?]
        split
        · exact .some (ih inner)
        · exact .none
      · cases hj
    · cases hj

end

/-! ## What units define -/

/-- The item, if it defines a type. -/
def Item.type? (i : Item) : Option Item := if (typeName? i).isSome then some i else none

/-- The name of the type that the item defines, and whether it is a struct. -/
def Item.kind? : Item → Option (String × Bool)
  | .struct s => some (s.name, true)
  | .enum e => some (e.name, false)
  | _ => none

theorem filter_type? (name : String) (items : List Item) :
    (items.filterMap Item.type?).filter (fun i => typeName? i = some name) =
      items.filter fun i => typeName? i = some name := by
  induction items with
  | nil => rfl
  | cons i is ih =>
    rw [List.filterMap_cons, List.filter_cons, Item.type?]
    cases h : typeName? i with
    | none => simpa [h] using ih
    | some n => simp [List.filter_cons, h, ih]

end Source

namespace Crate

/-! ## Describing a crate -/

theorem looksLike_append_other (d : Declaration) (items : List Item) :
    LooksLike Item.type? items (items ++ [.other d]) := by
  refine looksLike_of_filterMap ?_ fun name => ?_
  · simp [Item.type?, typeName?]
  · simp [Item.itemsOf?]

/-- **Describing a crate** leaves its types. -/
theorem describe_looksLike (unit : SourceUnit) (ds : List Described) :
    LooksLike Item.type? unit.items (describe unit ds).items := by
  have hmodules : ∀ (modules : List (List String)) (items : List Item),
      LooksLike Item.type? items (modules.foldl (describeModule ds) items) := by
    intro modules
    induction modules with
    | nil => exact LooksLike.refl
    | cons path modules ih =>
      intro items
      refine (looksLike_modifyModule ?_ ?_ path items).trans (ih _)
      · exact fun _ _ => rfl
      · exact looksLike_append_other _
  exact (hmodules _ _).trans (looksLike_append_other _ _)

section

variable {targets references : List SourceUnit}

/-- **The crate that is handed over** has the last type of a full name in the module of that name, and
no other type of the name. -/
theorem types_crateOf {path : TypePath} (h : typesOf path (references ++ targets) ≠ []) :
    ∃ body, bodiesAt path.modules (Compiler.crateOf targets references).items = [body] ∧
      (body.filter fun i => typeName? i = some path.name) =
        [(typesOf path (references ++ targets)).getLast h] := by
  obtain ⟨body, hbody, htypes⟩ := types_merge h
  have hlook := describe_looksLike (merge targets references) (described targets) path.modules
  rw [hbody] at hlook
  obtain ⟨body', rest, hsame, hrest, hbodies⟩ := List.forall₂_cons_left_iff.1 hlook
  rw [List.forall₂_nil_left_iff.1 hrest] at hbodies
  refine ⟨body', hbodies, ?_⟩
  rw [← filter_type?, ← hsame, filter_type?, htypes]

/-- Every type in the crate is one of a unit. -/
theorem mem_types_crateOf {path : List String} {body : List Item} {i : Item} {name : String}
    (hbody : body ∈ bodiesAt path (Compiler.crateOf targets references).items) (hi : i ∈ body)
    (hname : typeName? i = some name) : i ∈ typesOf ⟨path, name⟩ (references ++ targets) := by
  obtain ⟨body', hbody', hsame⟩ :=
    (describe_looksLike (merge targets references) (described targets)).exists_body hbody
  have hpath : path = [] ∨ ∃ u ∈ references ++ targets, bodiesAt path u.items ≠ [] := by
    rw [bodiesAt_merge] at hbody'
    rw [← isSome_at?_mergeTree]
    cases hat : (mergeTree targets references).at? path with
    | none => rw [hat] at hbody'; cases hbody'
    | some t => rfl
  obtain ⟨t, -, hfound, hown⟩ := module_merge hpath
  rw [hfound, List.mem_singleton] at hbody'
  subst hbody'
  have hi : i ∈ body.filter fun i => typeName? i = some name :=
    List.mem_filter.2 ⟨hi, decide_eq_true hname⟩
  rw [← filter_type?, ← hsame, filter_type?, filter_typeName_of_settled hown, Option.mem_toList] at hi
  exact List.mem_of_getLast? hi

end

end Crate

/-! ## Adding a field -/

namespace Synthesis

theorem looksLike_insertImport (u : UseDecl) (items : List Item) :
    LooksLike Item.kind? items (insertImport u items) := by
  unfold insertImport
  split
  · exact LooksLike.refl items
  · dsimp only
    generalize items.length - (items.reverse.takeWhile fun item => !item.isImport).length = n
    refine looksLike_of_filterMap ?_ fun name => ?_
    · conv_lhs => rw [← List.take_append_drop n items]
      rw [List.filterMap_append, List.filterMap_append, List.filterMap_cons_none rfl]
    · conv_lhs => rw [← List.take_append_drop n items]
      rw [List.filterMap_append, List.filterMap_append, List.filterMap_cons_none rfl]

theorem looksLike_pushFieldOn (typeName : String) (field : Field) (items : List Item) :
    LooksLike Item.kind? items (pushFieldOn typeName field items) := by
  refine looksLike_changeFirst ?_ items
  intro i j hj
  obtain ⟨s, hs, rfl⟩ := Option.map_eq_some_iff.1 hj
  cases i with
  | struct t =>
    rw [Item.structNamed?] at hs
    split at hs
    · obtain rfl := Option.some.inj hs
      refine ⟨?_, fun name => .none⟩
      have hname : (pushField field t).name = t.name := by
        unfold pushField
        split <;> rfl
      simp [Item.kind?, hname]
    · cases hs
  | _ => cases hs

theorem looksLike_editItems (typeName : String) (field : Field) (needed : Option UseDecl)
    (items : List Item) : LooksLike Item.kind? items (editItems typeName field needed items) := by
  unfold editItems
  cases needed with
  | none => exact looksLike_pushFieldOn typeName field items
  | some u => exact (looksLike_insertImport u items).trans (looksLike_pushFieldOn typeName field _)

/-- Adding a field reads the unit and lays it out with the field. -/
theorem addField_ok {source typeName text : String} {r : FieldRequest}
    {resolve : TypePath → Option TypePath} (h : addField source typeName r resolve = .ok text) :
    ∃ unit edited, SourceUnit.read source = .ok unit ∧
      addFieldTo unit typeName r resolve = .ok edited ∧ areFinished edited.items = true ∧
      edited.text = text := by
  unfold addField SourceUnit.readFor at h
  cases hread : SourceUnit.read source with
  | error e => rw [hread] at h; cases h
  | ok unit =>
    rw [hread] at h
    cases hedited : addFieldTo unit typeName r resolve with
    | error e => simp only [Except.mapError, bind, Except.bind, hedited] at h; cases h
    | ok edited =>
      simp only [Except.mapError, bind, Except.bind, hedited] at h
      split at h
      · rename_i hfinished
        exact ⟨unit, edited, rfl, hedited, hfinished, Except.ok.inj h⟩
      · cases h

/-- Adding a field finds the struct, whose fields have other names, and changes the module at its path,
which has a struct of the name. -/
theorem addFieldTo_located {unit edited : SourceUnit} {typeName : String} {r : FieldRequest}
    {resolve : TypePath → Option TypePath} (h : addFieldTo unit typeName r resolve = .ok edited) :
    ∃ path s fields type needed body, locate typeName unit.items = some (path, s) ∧
      s.fields = .named fields ∧ (fields.any fun f => decide (f.name = r.name)) = false ∧
      fieldType resolve path r = .ok (type, needed) ∧ moduleItems? path unit.items = some body ∧
      body.findSome? (Item.structNamed? typeName) ≠ none ∧
      edited = { unit with
        items := modifyModule (editItems typeName (publicField r.name type) needed) path unit.items } := by
  unfold addFieldTo SourceUnit.structNamed at h
  cases hlocated : locate typeName unit.items with
  | none => rw [hlocated] at h; cases h
  | some found =>
    obtain ⟨path, s⟩ := found
    rw [hlocated] at h
    simp only [Except.mapError, bind, Except.bind] at h
    split at h
    · rename_i fields hfields
      cases hdup : fields.any fun f => decide (f.name = r.name) with
      | true => rw [hdup] at h; cases h
      | false =>
        rw [hdup, if_neg Bool.false_ne_true] at h
        cases hfield : fieldType resolve path r with
        | error e => rw [hfield] at h; cases h
        | ok field =>
          obtain ⟨type, needed⟩ := field
          cases hbody : moduleItems? path unit.items with
          | none => rw [hfield, hbody] at h; cases h
          | some body =>
            cases htarget : body.findSome? (Item.structNamed? typeName) with
            | none => rw [hfield, hbody] at h; dsimp only at h; rw [htarget] at h; cases h
            | some target =>
              rw [hfield, hbody] at h
              dsimp only at h
              rw [htarget] at h
              refine ⟨path, s, fields, type, needed, body, rfl, hfields, hdup, hfield, hbody, ?_, ?_⟩
              · exact htarget ▸ Option.some_ne_none target
              · -- a name that no field can have is not looked at here
                dsimp only at h
                repeat' split at h
                all_goals first | exact (Except.ok.inj h).symm | cases h
    · cases h

/-- Adding a field changes the module of the struct, and gives the field the type that was asked for. -/
theorem addFieldTo_ok {unit edited : SourceUnit} {typeName : String} {r : FieldRequest}
    {resolve : TypePath → Option TypePath} (h : addFieldTo unit typeName r resolve = .ok edited) :
    ∃ path type needed, fieldType resolve path r = .ok (type, needed) ∧
      edited = { unit with
        items := modifyModule (editItems typeName (publicField r.name type) needed) path unit.items } := by
  obtain ⟨path, s, fields, type, needed, body, -, -, -, hfield, -, -, hedited⟩ := addFieldTo_located h
  exact ⟨path, type, needed, hfield, hedited⟩

/-- **A further field** leaves the types of a unit, and what kinds of types they are. -/
theorem addFieldTo_looksLike {unit edited : SourceUnit} {typeName : String} {r : FieldRequest}
    {resolve : TypePath → Option TypePath} (h : addFieldTo unit typeName r resolve = .ok edited) :
    LooksLike Item.kind? unit.items edited.items := by
  obtain ⟨path, type, needed, -, rfl⟩ := addFieldTo_ok h
  exact looksLike_modifyModule (fun _ _ => rfl) (looksLike_editItems _ _ _) path unit.items

end Synthesis

end TypeFoundry
