import TypeFoundry.Crate.Describe
import TypeFoundry.Proofs.Keeping
import TypeFoundry.Source.Unit

/-!
# The names that a unit declares

The names that are read in a unit are words of its text. So the modules and structs of any unit that
can be read have names that such items can have (`read_named`).
-/

set_option autoImplicit false

namespace TypeFoundry.Source

/-! ## What readers answer -/

namespace Reader

/-- The reader answers only what satisfies `Q`, if it is run on words that satisfy `P`. -/
structure Gives (P : String → Prop) {α : Type} (Q : α → Prop) (r : Reader α) : Prop where
  answer : ∀ {ts ts' : Tokens} {a : α}, WordsSatAll P ts → r ts = .ok (a, ts') → Q a

namespace Gives

variable {P : String → Prop} {α β : Type} {Q : α → Prop} {R : β → Prop}

theorem bind {r : Reader α} {f : α → Reader β} [hkeeps : Keeps P r] (hr : Gives P Q r)
    (hf : ∀ a, Q a → Gives P R (f a)) : Gives P R (r >>= f) where
  answer hts h := by
    rw [run_bind] at h
    split at h
    · rename_i a ts' hfirst
      exact (hf a (hr.answer hts hfirst)).answer (hkeeps.left hts hfirst) h
    · cases h

/-- What the first reader answers need not matter. -/
theorem skip {r : Reader α} {f : α → Reader β} [Keeps P r] (hf : ∀ a, Gives P R (f a)) :
    Gives P R (r >>= f) :=
  bind (Q := fun _ => True) ⟨fun _ _ => trivial⟩ fun a _ => hf a

theorem pure {a : α} (h : Q a) : Gives P Q (pure a : Reader α) where
  answer _ hr := by
    cases hr
    exact h

theorem map {r : Reader α} {f : α → β} (hr : Gives P (fun a => R (f a)) r) : Gives P R (f <$> r) where
  answer hts h := by
    rw [run_map] at h
    split at h
    · rename_i a ts' hfirst
      cases h
      exact hr.answer hts hfirst
    · cases h

theorem stop : Gives P Q (stop : Reader α) where
  answer _ h := by cases h

theorem ite {c : Prop} [Decidable c] {r s : Reader α} (hr : Gives P Q r) (hs : Gives P Q s) :
    Gives P Q (if c then r else s) := by
  split <;> assumption

/-- Tokens that were seen have words that satisfy `P`. -/
theorem of_rest {f : Tokens → Reader α} (h : ∀ ts, WordsSatAll P ts → Gives P Q (f ts)) :
    Gives P Q (rest >>= f) where
  answer hts hr := (h _ hts).answer hts hr

theorem group {d : Delimiter} {inner : Reader α} (h : Gives P Q inner) :
    Gives P Q (Reader.group d inner) where
  answer hts hr := by
    unfold Reader.group at hr
    split at hr
    · split at hr
      · split at hr
        · rename_i hinner
          cases hr
          exact h.answer hts.1 hinner
        · cases hr
        · cases hr
      · cases hr
    · cases hr

theorem manyWhile {p : Tokens → Bool} {r : Reader α} [Keeps P r] (h : Gives P Q r) (fuel : Nat) :
    Gives P (fun as => ∀ a ∈ as, Q a) (manyWhile p r fuel) := by
  induction fuel with
  | zero => exact pure (by simp)
  | succ fuel ih =>
    refine skip fun _ => ite (bind h fun a ha => bind ih fun as has => pure ?_) (pure (by simp))
    exact List.forall_mem_cons.2 ⟨ha, has⟩

theorem many {r : Reader α} [Keeps P r] (h : Gives P Q r) :
    Gives P (fun as => ∀ a ∈ as, Q a) (many r) where
  answer hts hr := (manyWhile h _).answer hts hr

theorem listUntil {closes : Tokens → Bool} {sep : String} {r : Reader α} [Keeps P r]
    (h : Gives P Q r) (fuel : Nat) :
    Gives P (fun as => ∀ a ∈ as.1, Q a) (listUntil closes sep r fuel) := by
  induction fuel with
  | zero => exact pure (by simp)
  | succ fuel ih =>
    refine bind h fun a ha => skip fun _ => ite (pure (by simpa using ha)) ?_
    refine skip fun _ => skip fun _ => ite (pure (by simpa using ha)) ?_
    refine bind ih fun as has => pure ?_
    exact List.forall_mem_cons.2 ⟨ha, has⟩

theorem commaList {r : Reader α} [Keeps P r] (h : Gives P Q r) :
    Gives P (fun as => ∀ a ∈ as.1, Q a) (commaList r) where
  answer hts hr := by
    unfold Reader.commaList at hr
    split at hr
    · cases hr
      simp
    · exact (listUntil h _).answer hts hr

end Gives

variable {P : String → Prop}

theorem gives_nameOr (words : List String) :
    Gives P (fun w => P w ∧ (isReserved w = false ∨ w ∈ words)) (nameOr words) where
  answer {ts ts' w} hts h := by
    unfold nameOr at h
    split at h
    · split at h
      · cases h
      · rename_i hv
        cases h
        refine ⟨hts.1, ?_⟩
        cases hr : isReserved w with
        | false => exact .inl rfl
        | true => exact .inr (by simpa [hr] using hv)
    · cases h

theorem gives_name : Gives P (fun w => P w ∧ isReserved w = false) name where
  answer hts h := by
    unfold name at h
    split at h
    · split at h
      · cases h
      · rename_i hv
        cases h
        exact ⟨hts.1, by simpa using hv⟩
    · cases h

end Reader

/-! ## Items with names -/

mutual

/-- The modules and structs in the item, and the fields of the structs, have names. -/
def Item.Named : Item → Prop
  | .struct s => isItemName s.name = true ∧ ∀ f ∈ s.namedFields, isIdentifier f.name = true
  | .module head items => isModuleName head.name = true ∧ AllNamed items
  | _ => True

/-- The modules and structs in the items, and the fields of the structs, have names. -/
def AllNamed : List Item → Prop
  | [] => True
  | i :: is => i.Named ∧ AllNamed is

end

theorem allNamed_iff {items : List Item} : AllNamed items ↔ ∀ i ∈ items, i.Named := by
  induction items with
  | nil => simp [AllNamed]
  | cons i is ih => simp [AllNamed, ih]

namespace Reader

/-- The text is an identifier. -/
def IsWord (w : String) : Prop := isIdentifier w = true

theorem gives_field (item : Reader Unit) :
    Gives IsWord (fun f => isIdentifier f.name = true) (field item) := by
  unfold field
  refine .skip fun attrs => .skip fun v => .bind (gives_nameOr _) fun a ha => ?_
  exact .skip fun _ => .skip fun t => .pure ha.1

theorem gives_namedFields (item : Reader Unit) :
    Gives IsWord (fun fs => ∀ f ∈ fs, isIdentifier f.name = true) (namedFields item) := by
  unfold namedFields
  refine .map (.group ?_)
  exact .commaList (gives_field item)

theorem gives_structDecl (item : Reader Unit) (attrs : List Attribute) :
    Gives IsWord (fun s => (Item.struct s).Named) (structDecl item attrs) := by
  unfold structDecl
  refine .skip fun v => .skip fun _ => .bind gives_name fun a ha => ?_
  have hname : isItemName a = true := by
    rw [isItemName, ha.2, show isIdentifier a = true from ha.1]
    rfl
  refine .skip fun params => .skip fun conditions => .skip fun ts => .ite ?_ (.ite ?_ ?_)
  · exact .bind (gives_namedFields item) fun fields hfields => .pure ⟨hname, hfields⟩
  · refine .skip fun slots => .skip fun conditions' => .skip fun _ => .pure ?_
    exact ⟨hname, by simp [StructDecl.namedFields]⟩
  · refine .skip fun _ => .pure ?_
    exact ⟨hname, by simp [StructDecl.namedFields]⟩

/-- **The reader of items** answers items with names. -/
theorem gives_itemFrom (n : Nat) : Gives IsWord Item.Named (itemFrom n) := by
  induction n with
  | zero => exact .stop
  | succ n ih =>
    unfold itemFrom
    refine .skip fun attrs => .of_rest fun start hstart => .skip fun v => .skip fun ts => .ite ?_ ?_
    · refine .skip fun isUnsafe => .skip fun _ => .bind (gives_nameOr _) fun a ha => .skip fun b => ?_
      refine .ite (.pure trivial) (.group (.skip fun inside => .bind (.many ih) fun items hitems => ?_))
      refine .pure ⟨?_, allNamed_iff.2 hitems⟩
      change (isIdentifier a && (!isReserved a || a == "try")) = true
      rw [show isIdentifier a = true from ha.1]
      obtain hr | hr := ha.2
      · rw [hr]
        rfl
      · rw [List.mem_singleton.1 hr]
        decide
    · have hset : Keeps IsWord (set start : Reader Unit) := keeps_set hstart
      refine .skip fun _ => .ite (.skip fun u => .pure trivial) (.ite ?_ ?_)
      · exact .bind (gives_structDecl _ attrs) fun s hs => .pure hs
      · exact .ite (.skip fun e => .pure trivial) (.skip fun d => .pure trivial)

end Reader

/-- **A unit that can be read** declares modules, structs and fields with names. -/
theorem SourceUnit.read_named {source : String} {unit : SourceUnit}
    (h : SourceUnit.read source = .ok unit) : AllNamed unit.items := by
  unfold SourceUnit.read at h
  split at h
  rename_i shebang text _
  split at h
  · cases h
  · rename_i placed hscan
    have hwords := wordsSat_scan hscan
    split at h
    · rename_i attrs items left hread
      cases h
      refine allNamed_iff.2 ?_
      have hgives : Reader.Gives Reader.IsWord (fun u => ∀ i ∈ u.2, i.Named) Reader.unitBody := by
        unfold Reader.unitBody
        refine .skip fun attrs => .bind (.many ⟨?_⟩) fun items hitems => .pure hitems
        intro ts ts' i hts hi
        exact (Reader.gives_itemFrom _).answer hts hi
      exact hgives.answer hwords hread
    · split at h <;> cases h

end TypeFoundry.Source
