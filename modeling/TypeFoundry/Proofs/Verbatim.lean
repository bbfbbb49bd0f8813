import TypeFoundry.Proofs.Confinement
import TypeFoundry.Proofs.Extending
import TypeFoundry.Proofs.FullNames

/-!
# Accepted names in use

A name is accepted for the one word that it is read as, and it is used as it stands. So accepted names can
be used just if they are plain: if nothing stands around the word (`requireName_usable`). With a plain name,
a new type is laid out and a further field is never the reason that a request is aborted. With another one,
both are aborted (`accepted_unusable`). The file of a type stands right in the directory of the store
unless its name has a slash, which only comments can bring in.
-/

set_option autoImplicit false

namespace TypeFoundry

open Source Text Synthesis Files

/-! ## The word of a name -/

theorem tokens?_word {name : String} (h : isIdentifier name = true) :
    tokens? name = some [.word name] := by
  have hword : Scans [] (name.toList ++ []) [.word name] := .word h (by simp) .nil
  rw [List.append_nil] at hword
  exact tokens?_of_scans (startsWord_word h) hword

/-- A text that may be used in a request is one word, which can name something. -/
theorem exists_soleWord {name : String} (h : checkName name = .ok ()) :
    ∃ w, soleWord? name = some w ∧ isItemName w = true ∧ tokens? name = some [.word w] := by
  have hsome : (soleWord? name).isSome = true := by
    simp only [checkName] at h
    split at h
    · cases h
    · split at h
      · cases h
      · split at h
        · cases h
        · split at h
          · cases h
          · rename_i hnone
            simpa [Option.isSome_iff_ne_none] using hnone
  obtain ⟨w, hw⟩ := Option.isSome_iff_exists.1 hsome
  have hw' := hw
  unfold soleWord? at hw'
  split at hw'
  · rename_i v htokens
    split at hw'
    · cases hw'
    · rename_i hreserved
      obtain rfl := Option.some.inj hw'
      have hword : isIdentifier v = true := by
        simpa [WordsSatAll, TokenTree.WordsSat] using wordsSat_tokens? htokens
      exact ⟨v, hw, by simpa [isItemName, hword] using hreserved, htokens⟩
  · cases hw'

theorem isRawStart_of_checkName {name : String} (h : checkName name = .ok ()) :
    isRawStart name.toList = false := by
  simp only [checkName] at h
  split at h
  · cases h
  · split at h
    · cases h
    · rename_i hraw
      simpa using hraw

section

variable {name : String} (h : checkName name = .ok ())

include h

/-- What may be used is an identifier just if it is plain. -/
theorem isIdentifier_iff_isPlain : isIdentifier name = true ↔ IsPlain name :=
  ⟨fun hname => ⟨h, tokens?_word hname⟩, IsPlain.isIdentifier⟩

theorem isItemName_iff_isPlain : isItemName name = true ↔ IsPlain name := by
  simp [isItemName, not_isReserved_of_checkName h, isIdentifier_iff_isPlain h]

theorem isModuleName_iff_isPlain : isModuleName name = true ↔ IsPlain name := by
  simp [isModuleName, not_isReserved_of_checkName h, isIdentifier_iff_isPlain h]

/-- The word of a name is the name just if the name is plain. -/
theorem isPlain_iff_eq {w : String} (hw : soleWord? name = some w) : IsPlain name ↔ name = w := by
  obtain ⟨v, hv, -, htokens⟩ := exists_soleWord h
  obtain rfl := Option.some.inj (hw.symm.trans hv)
  constructor
  · intro hplain
    simpa using hplain.oneWord.symm.trans htokens
  · intro heq
    refine ⟨h, ?_⟩
    rw [htokens, ← heq]

end

/-- A new type is laid out just if its name and its modules are plain. -/
theorem newType_of_checked {name : String} {modules : List String}
    (h : ∀ x ∈ name :: modules, checkName x = .ok ()) :
    ((∀ x ∈ name :: modules, IsPlain x) → newType name modules = .ok (newUnit name modules).text) ∧
      ((∃ x ∈ name :: modules, ¬ IsPlain x) → newType name modules = .error .aborted) := by
  have hall : (isItemName name && modules.all isModuleName) = true ↔
      ∀ x ∈ name :: modules, IsPlain x := by
    obtain ⟨hname, hmodules⟩ := List.forall_mem_cons.1 h
    rw [List.forall_mem_cons, Bool.and_eq_true, List.all_eq_true, isItemName_iff_isPlain hname]
    exact and_congr_right fun _ => forall₂_congr fun m hm => isModuleName_iff_isPlain (hmodules m hm)
  refine ⟨fun hplain => ?_, fun hplain => ?_⟩
  · rw [newType, if_pos (hall.2 hplain)]
  · rw [newType, if_neg (mt hall.1 (by simpa only [not_forall, exists_prop] using hplain))]

/-! ## Further fields -/

namespace Source

theorem AllNamed.inside {ms : List Surrounding} {inner : List Item} (h : AllNamed (surround ms inner)) :
    AllNamed inner := by
  induction ms with
  | nil => exact h
  | cons m ms ih =>
    have hm := allNamed_iff.1 h (.module m.head (surround ms inner)) (by simp [surround])
    exact ih hm.2

/-- The fields of a struct that stands among items with names have names. -/
theorem Place.isIdentifier_field {p : Place} (h : AllNamed p.items) :
    ∀ f ∈ p.struct.namedFields, isIdentifier f.name = true :=
  (allNamed_iff.1 h.inside (.struct p.struct) (by simp [Place.put])).2

end Source

namespace Synthesis

section

variable {resolve : TypePath → Option TypePath} {modules : List String} {typeName : String}
  {unit : SourceUnit} {r : FieldRequest}

/-- The type of a field is the same under each name. -/
theorem fieldType_rename {x : Ty × Option UseDecl} (h : fieldType resolve modules r = .ok x)
    (name : String) : fieldType resolve modules { r with name := name } = .ok x := by
  rw [← h]
  unfold fieldType at h ⊢
  cases hkind : primitiveName? r.kind with
  | some _ => rfl
  | none =>
    simp only [hkind] at h ⊢
    -- only what names nothing is refused under the name of the field
    by_cases hempty : (trim (r.target.getD "")).isEmpty = true
    · rw [if_pos hempty] at h
      cases h
    · rw [if_neg hempty, if_neg hempty]

theorem fieldType_ne_aborted
    (hresolve : ∀ p target, resolve p = some target → ∀ w ∈ target.segments, isUseName w = true) :
    fieldType resolve modules r ≠ .error .aborted := by
  intro h
  unfold fieldType at h
  split at h
  · cases h
  · dsimp only at h
    split at h
    · cases h
    · split at h
      · cases h
      · rename_i target htarget
        obtain ⟨p, -, hp⟩ := Option.bind_eq_some_iff.1 htarget
        have huse := hresolve p target hp
        have hpath : target.segments.all isPathName = true :=
          List.all_eq_true.2 fun w hw => (Bool.and_eq_true_iff.1 (huse w hw)).1
        have hmodules : target.modules.all isUseName = true :=
          List.all_eq_true.2 fun w hw => huse w (List.mem_append_left _ hw)
        simp only [hpath, hmodules, Bool.not_true, Bool.false_eq_true, ↓reduceIte] at h
        split at h <;> cases h

/-- Only the type of a field can be the reason that a request with an identifier is aborted. -/
theorem addFieldTo_ne_aborted (hname : isIdentifier r.name = true)
    (htype : ∀ modules, fieldType resolve modules r ≠ .error .aborted) :
    addFieldTo unit typeName r resolve ≠ .error .aborted := by
  intro h
  cases hlocated : locate typeName unit.items with
  | none =>
    simp only [addFieldTo, SourceUnit.structNamed, hlocated] at h
    cases h
  | some found =>
    obtain ⟨path, s⟩ := found
    cases hfields : s.fields with
    | named fields =>
      by_cases hnew : ∀ g ∈ fields, g.name ≠ r.name
      · have hany : (fields.any fun g => decide (g.name = r.name)) = false := by simpa using hnew
        cases hfound : fieldType resolve path r with
        | error e =>
          simp only [addFieldTo, SourceUnit.structNamed, hlocated, Except.mapError, bind, Except.bind,
            hfields, hany, hfound] at h
          obtain rfl := Except.error.inj h
          exact htype path hfound
        | ok found =>
          rw [addFieldTo_eq hlocated hfields hnew hname hfound] at h
          repeat' split at h
          all_goals cases h
      · have hdup : addFieldTo unit typeName r resolve =
            .error (.failure (.duplicateField typeName r.name)) :=
          (addFieldTo_duplicate _ _).2 ⟨rfl, rfl, path, s, fields, hlocated, hfields, by simpa using hnew⟩
        rw [hdup] at h
        cases h
    | _ =>
      simp only [addFieldTo, SourceUnit.structNamed, hlocated, Except.mapError, bind, Except.bind,
        hfields] at h
      cases h

/-- Where a field could be added under some name, one whose name is no identifier aborts the request. -/
theorem addFieldTo_aborted {edited : SourceUnit} (h : addFieldTo unit typeName r resolve = .ok edited)
    (hunit : AllNamed unit.items) {name : String} (hname : isIdentifier name = false) :
    addFieldTo unit typeName { r with name := name } resolve = .error .aborted := by
  obtain ⟨path, s, fields, type, needed, body, hlocated, hfields, -, htype, hbody, hstruct, -⟩ :=
    addFieldTo_located h
  obtain ⟨p, hfirst, hitems, rfl, rfl⟩ := exists_place hlocated
  rw [← hitems] at hlocated hbody hunit
  obtain rfl : body = p.put p.struct := by
    have hleads := hfirst.leads_iff.2 (hfirst.leads hbody hstruct)
    exact Option.some.inj (hbody.symm.trans hleads)
  -- no field of the struct is spelled as what is no identifier
  have hnew : (fields.any fun g => decide (g.name = name)) = false := by
    have hidentifiers := Place.isIdentifier_field hunit
    rw [StructDecl.namedFields, hfields] at hidentifiers
    rw [List.any_eq_false]
    intro g hg
    rw [decide_eq_true_eq]
    rintro rfl
    exact Bool.false_ne_true (hname.symm.trans (hidentifiers g hg))
  simp only [addFieldTo, SourceUnit.structNamed, ← hitems, hlocated, Except.mapError, bind, Except.bind,
    hfields, hnew, fieldType_rename htype, hbody, hfirst.findSome_put, hname]
  rfl

variable {source : String}

theorem addField_ne_aborted (hname : isIdentifier r.name = true)
    (hfinished : ∀ unit, SourceUnit.read source = .ok unit → areFinished unit.items = true)
    (htype : ∀ modules, fieldType resolve modules r ≠ .error .aborted) :
    addField source typeName r resolve ≠ .error .aborted := by
  cases hread : SourceUnit.read source with
  | error e =>
    simp only [addField, SourceUnit.readFor, hread]
    rintro ⟨⟩
  | ok unit =>
    rw [addField_eq hread]
    cases hedited : addFieldTo unit typeName r resolve with
    | error e =>
      rintro ⟨⟩
      exact addFieldTo_ne_aborted hname htype hedited
    | ok edited =>
      rw [Except.bind, areFinished_of_addFieldTo hedited, hfinished unit hread]
      rintro ⟨⟩

/-- **A name that is no identifier** aborts each request that would succeed under some name. -/
theorem addField_aborted {text name : String} (h : addField source typeName r resolve = .ok text)
    (hname : isIdentifier name = false) :
    addField source typeName { r with name := name } resolve = .error .aborted := by
  obtain ⟨unit, edited, hread, hedited, -, -⟩ := addField_ok h
  rw [addField_eq hread, addFieldTo_aborted hedited (SourceUnit.read_named hread) hname]
  rfl

end

end Synthesis

/-! ## Files -/

/-- The file of a type stands right in the directory of the store just if its name has no slash. -/
theorem place_path_iff {name : String} (cwd : Location) (s : Store) :
    place cwd (s.path name) = place cwd s.root ++ [name ++ Store.ending] ↔ '/' ∉ name.toList := by
  refine ⟨fun h => ?_, fun h => place_join (isFileName_unit_iff.2 h) cwd s.root⟩
  obtain ⟨x, hx⟩ := join_eq_append s.root name Store.ending
  obtain ⟨dir, last, hplace, hlast⟩ := @place_append cwd x Store.ending (by decide) (by decide)
  rw [Store.path, hx, hplace] at h
  have hname := List.append_inj_right' h rfl
  rw [List.singleton_inj, String.append_left_inj] at hname
  exact hname ▸ hlast

/-! ## Accepted names -/

/-- **An accepted name** is used as it stands just if it is plain, that is, just if it is the word that it
is accepted for.

It is neither raw nor reserved. A new type is laid out just if its name and the modules are plain. A further
field of a plain name is never the reason to abort: the request is aborted just for a unit that cannot be
laid out or for a type that cannot be written. Where the type could have a field of some other name, a name
that is not plain aborts the request. The file of a type of the name stands right in the directory of the
store unless the name has a slash, which no plain name has. -/
theorem requireName_usable {what name : String} (h : requireName what name = .ok ()) :
    (∃ w, soleWord? name = some w ∧ isItemName w = true ∧ (IsPlain name ↔ name = w)) ∧
    isRawStart name.toList = false ∧ isReserved name = false ∧
    (isIdentifier name = true ↔ IsPlain name) ∧
    (∀ modules, (∀ m ∈ modules, checkName m = .ok ()) →
      ((∀ x ∈ name :: modules, IsPlain x) → newType name modules = .ok (newUnit name modules).text) ∧
      ((∃ x ∈ name :: modules, ¬ IsPlain x) → newType name modules = .error .aborted)) ∧
    (∀ source typeName kind target resolve,
      (IsPlain name → (∀ unit, SourceUnit.read source = .ok unit → areFinished unit.items = true) →
        (∀ p q, resolve p = some q → ∀ w ∈ q.segments, isUseName w = true) →
        addField source typeName ⟨name, kind, target⟩ resolve ≠ .error .aborted) ∧
      (¬ IsPlain name → ∀ other text,
        addField source typeName ⟨other, kind, target⟩ resolve = .ok text →
        addField source typeName ⟨name, kind, target⟩ resolve = .error .aborted)) ∧
    (∀ cwd (s : Store), place cwd (s.path name) = place cwd s.root ++ [name ++ Store.ending] ↔
      '/' ∉ name.toList) ∧
    (IsPlain name → '/' ∉ name.toList) := by
  have hcheck := Request.checkName_of_requireName h
  obtain ⟨w, hw, hword, -⟩ := exists_soleWord hcheck
  refine ⟨⟨w, hw, hword, isPlain_iff_eq hcheck hw⟩, isRawStart_of_checkName hcheck,
    not_isReserved_of_checkName hcheck, isIdentifier_iff_isPlain hcheck, fun modules hmodules => ?_,
    fun source typeName kind target resolve => ⟨fun hplain hfinished hresolve => ?_,
      fun hplain other text hother => ?_⟩,
    place_path_iff, fun hplain => ?_⟩
  · exact newType_of_checked (List.forall_mem_cons.2 ⟨hcheck, hmodules⟩)
  · exact addField_ne_aborted hplain.isIdentifier hfinished fun _ => fieldType_ne_aborted hresolve
  · refine addField_aborted hother ?_
    rw [← Bool.not_eq_true, isIdentifier_iff_isPlain hcheck]
    exact hplain
  · exact not_mem_identifier hplain.isIdentifier (by decide) (by decide) (by decide)

/-- A name with a blank in front is accepted and aborts the synthesis, and the word alone does not. -/
theorem requireName_usable_blank :
    requireName "type name" " Employee" = .ok () ∧ newType " Employee" ["models"] = .error .aborted ∧
      newType "Employee" ["models"] = .ok (newUnit "Employee" ["models"]).text := by
  have hmodule : checkName "models" = .ok () := by decide +kernel
  have hmodules : ∀ m ∈ ["models"], checkName m = .ok () := List.forall_mem_singleton.2 hmodule
  have hblank : requireName "type name" " Employee" = .ok () := by decide +kernel
  have hbare : requireName "type name" "Employee" = .ok () := by decide +kernel
  obtain ⟨-, -, -, hident, hnew, -⟩ := requireName_usable hblank
  obtain ⟨-, -, -, hident', hnew', -⟩ := requireName_usable hbare
  refine ⟨hblank, (hnew ["models"] hmodules).2 ⟨" Employee", by simp, ?_⟩,
    (hnew' ["models"] hmodules).1 (List.forall_mem_cons.2 ⟨hident'.1 (by decide +kernel), ?_⟩)⟩
  · rw [← hident]
    decide +kernel
  · exact List.forall_mem_singleton.2 ((isIdentifier_iff_isPlain hmodule).1 (by decide +kernel))

/-- **Not every accepted name can be used**: with a blank in front of it it is no identifier, and with a
comment in front of it it is the path of a file elsewhere. -/
theorem accepted_unusable :
    requireName "type name" " Employee" = .ok () ∧ isIdentifier " Employee" = false ∧
      newType " Employee" [] = .error .aborted ∧
      requireName "type name" "/**/Employee" = .ok () ∧
      ∀ s : Store, s.path "/**/Employee" = "/**/Employee.rs" := by
  refine ⟨by decide +kernel, by decide +kernel, ?_, by decide +kernel, fun s => ?_⟩
  · rw [newType, if_neg (by decide +kernel)]
  · have habsolute : isAbsolute "/**/Employee.rs" = true := by decide +kernel
    have hname : "/**/Employee" ++ Store.ending = "/**/Employee.rs" := by decide +kernel
    rw [Store.path, hname, join, habsolute]
    rfl

end TypeFoundry
