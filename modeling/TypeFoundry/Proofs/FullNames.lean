import TypeFoundry.Proofs.Evolution

/-!
# Full names read back

The full name of a declared type is written in words with two colons between them. `parse_display`
says that the text denotes the same full name again. It holds no blank at its ends, no tab and no
line end (`not_mem_display`).
-/

set_option autoImplicit false

namespace TypeFoundry

open Source Synthesis Text
open Source.TokenTree (flatAll flatAll_append)

/-! ## Texts of words -/

namespace Source

open Scan

/-- A text is scanned from its first character on, unless that is a byte order mark. -/
theorem tokens?_of_unmarked {s : String} {ts : Tokens} (hmark : s.toList.head? ≠ some '\ufeff')
    (h : Scans [] s.toList (flatAll ts)) : tokens? s = some ts := by
  have hdrop : dropMark s.toList = s.toList := by
    unfold dropMark
    split
    · rename_i rest hs
      rw [hs] at hmark
      exact absurd rfl hmark
    · rfl
  obtain ⟨placed, hp, hl⟩ := h (s.toList.length + 1) (by omega) [] rfl
  unfold tokens? scan
  rw [hdrop, hp]
  dsimp only
  rw [show placed.map (·.lexeme) = flatAll ts from hl, trees_flatAll]

/-- A text that starts with a word is scanned from its first character on. -/
theorem tokens?_of_scans {s : String} {ts : Tokens} (hstart : StartsWord s.toList)
    (h : Scans [] s.toList (flatAll ts)) : tokens? s = some ts := by
  obtain ⟨c, hc, hstart⟩ := hstart
  refine tokens?_of_unmarked (fun hmark => ?_) h
  have hne : '\ufeff' ≠ c := ne_of_isStart hstart (by decide +kernel)
  exact hne (Option.some.inj (hmark.symm.trans hc))

/-- Words up to the end of the text, with a piece between them that spells two colons. -/
theorem scans_names {sep : String} {names : List String}
    (hsep : Spells Identifier.isStart (op "::") sep.toList)
    (hends : ∃ c, sep.toList.head? = some c ∧ endsWord c = true) (hne : names ≠ [])
    (h : ∀ w ∈ names, isIdentifier w = true) :
    Scans [] (sep.intercalate names).toList (flatAll (namesTokens names)) ∧
      StartsWord (sep.intercalate names).toList := by
  induction names with
  | nil => exact absurd rfl hne
  | cons w names ih =>
    have hw := h w List.mem_cons_self
    cases names with
    | nil =>
      have hword : Scans [] (w.toList ++ []) [.word w] := Scans.word hw (by simp) .nil
      rw [List.append_nil] at hword
      rw [String.intercalate_singleton]
      exact ⟨hword, startsWord_word hw⟩
    | cons v names =>
      obtain ⟨hrest, c, hc, hstart⟩ := ih (by simp) fun u hu => h u (List.mem_cons_of_mem _ hu)
      have hfirst := (Spells.word hw).append hsep hends
      have hall := hfirst [] _ _ ⟨c, hc, hstart⟩ hrest
      rw [String.intercalate_cons_cons, String.toList_append, String.toList_append]
      refine ⟨?_, ?_⟩
      · rw [← flatAll_append] at hall
        exact hall
      · rw [List.append_assoc]
        exact startsWord_append (startsWord_word hw) _

end Source

/-! ## Blanks -/

namespace Text

theorem isContinue_of_isBlank {c : Char} (h : isBlank c = true) : Identifier.isContinue c = false := by
  have hn : ∀ n ∈ Scan.separatorPoints, Identifier.isContinue (Char.ofNat n) = false := by
    decide +kernel
  have hsep : Scan.isSeparator c = true := by simp [Scan.isSeparator, h]
  have := hn _ (Scan.toNat_of_isSeparator hsep)
  rwa [Char.ofNat_toNat] at this

theorem isStart_of_isBlank {c : Char} (h : isBlank c = true) : Identifier.isStart c = false :=
  Scan.isStart_of_isSeparator (by simp [Scan.isSeparator, h])

theorem dropBlanks_eq_self {cs : List Char} (h : ∀ c ∈ cs.head?, isBlank c = false) :
    dropBlanks cs = cs := by
  cases cs with
  | nil => rfl
  | cons c cs => simp [dropBlanks, h c rfl]

/-- Nothing is removed from a text without blanks at its ends. -/
theorem trim_eq_self {s : String} (hhead : ∀ c ∈ s.toList.head?, isBlank c = false)
    (hlast : ∀ c ∈ s.toList.getLast?, isBlank c = false) : trim s = s := by
  rw [trim, dropBlanks_eq_self hhead, dropBlanks_eq_self (by simpa using hlast), List.reverse_reverse,
    String.ofList_toList]

/-- No identifier holds a blank. -/
theorem isBlank_of_mem_identifier {w : String} (hw : isIdentifier w = true) {c : Char}
    (hc : c ∈ w.toList) : isBlank c = false := by
  rw [Bool.eq_false_iff]
  intro hblank
  refine not_mem_identifier hw ⟨?_, ?_⟩ (isContinue_of_isBlank hblank) (isStart_of_isBlank hblank) hc
  all_goals
    rintro rfl
    exact absurd hblank (by decide)

/-- A text of words ends with a word. -/
theorem getLast?_names {sep : String} {names : List String} (hne : names ≠ [])
    (h : ∀ w ∈ names, isIdentifier w = true) :
    ∀ c ∈ (sep.intercalate names).toList.getLast?, isBlank c = false := by
  induction names with
  | nil => exact absurd rfl hne
  | cons w names ih =>
    cases names with
    | nil =>
      rw [String.intercalate_singleton]
      exact fun c hc => isBlank_of_mem_identifier (h w List.mem_cons_self) (List.mem_of_getLast? hc)
    | cons v names =>
      have ih := ih (by simp) fun u hu => h u (List.mem_cons_of_mem _ hu)
      intro c hc
      rw [String.intercalate_cons_cons, String.toList_append, List.getLast?_append, Option.mem_def,
        Option.or_eq_some_iff] at hc
      obtain hc | ⟨hempty, -⟩ := hc
      · exact ih c hc
      · -- the words behind the first are not an empty text
        obtain ⟨x, xs, hx, -⟩ := Scan.head_identifier (h v (by simp))
        cases names <;> simp [String.intercalate_cons_cons, hx] at hempty

end Text

/-! ## Full names -/

namespace TypePath

/-- The path names a type that a unit can declare. -/
structure IsDeclared (p : TypePath) : Prop where
  modules : ∀ m ∈ p.modules, isModuleName m = true
  name : isItemName p.name = true

variable {p : TypePath}

theorem isPathName_of_isModuleName {m : String} (h : isModuleName m = true) : isPathName m = true := by
  simp only [isModuleName, Bool.and_eq_true, Bool.or_eq_true, beq_iff_eq] at h
  obtain ⟨hword, hr | rfl⟩ := h
  · simp [isPathName, isSegment, hword, hr]
  · decide

theorem IsDeclared.isPathName (h : p.IsDeclared) : ∀ w ∈ p.segments, isPathName w = true := by
  intro w hw
  obtain hw | hw := List.mem_append.1 hw
  · exact isPathName_of_isModuleName (h.modules w hw)
  · rw [List.mem_singleton.1 hw]
    simp [Synthesis.isPathName, isSegment, isIdentifier_of_isItemName h.name,
      isReserved_of_isItemName h.name]

/-- No module and no type is named as the crate is. -/
theorem IsDeclared.ne_crate (h : p.IsDeclared) : ∀ w ∈ p.segments, w ≠ "crate" := by
  intro w hw
  obtain hw | hw := List.mem_append.1 hw
  · rintro rfl
    exact absurd (h.modules _ hw) (by decide)
  · rw [List.mem_singleton.1 hw]
    intro he
    have := h.name
    rw [he] at this
    exact absurd this (by decide)

theorem words?_namesTokens {names : List String} (hne : names ≠ [])
    (h : ∀ w ∈ names, isSegment w = true) : words? (namesTokens names) = some names := by
  induction names with
  | nil => exact absurd rfl hne
  | cons w names ih =>
    have hw := h w List.mem_cons_self
    cases names with
    | nil => simp [namesTokens, joinedBy, words?, hw]
    | cons v names =>
      have ih := ih (by simp) fun u hu => h u (List.mem_cons_of_mem _ hu)
      have htokens : namesTokens (w :: v :: names) =
          .word w :: .mark ':' true :: .mark ':' false :: namesTokens (v :: names) := rfl
      rw [htokens, words?, if_pos hw, ih]
      rfl

theorem segments_ne_nil (p : TypePath) : p.segments ≠ [] := by simp [segments]

/-- No character that cannot stand in an identifier stands in the text of a full name. -/
theorem not_mem_display (h : p.IsDeclared) {c : Char} (hc : c ≠ 'r' ∧ c ≠ '#' ∧ c ≠ ':')
    (hcont : Identifier.isContinue c = false) (hstart : Identifier.isStart c = false) :
    c ∉ p.display.toList := by
  refine not_mem_intercalate (by simp [hc.2.2]) fun w hw => ?_
  exact not_mem_identifier (isIdentifier_of_isPathName (h.isPathName w hw)) ⟨hc.1, hc.2.1⟩ hcont hstart

/-- What words denote depends on the words and not on the blanks between them. -/
theorem parse_of_tokens {text : String} {names : List String} (hne : names ≠ [])
    (h : ∀ w ∈ names, isSegment w = true) (htokens : tokens? (trim text) = some (namesTokens names)) :
    parse text = ofSegments? (dropCrate names) := by
  have hwords := words?_namesTokens hne h
  have hrooted : rootedWords? (namesTokens names) = some names := by
    obtain ⟨w, rest, hrest⟩ := List.exists_cons_of_ne_nil hne
    rw [hrest] at hwords ⊢
    rw [namesTokens_cons] at hwords ⊢
    exact hwords
  simp only [parse, htokens, hrooted, Option.bind_eq_bind, Option.bind_some]

/-- **A text of words** denotes the path of the words, without the name of the crate in front. -/
theorem parse_names {sep : String} {names : List String}
    (hsep : Spells Identifier.isStart (op "::") sep.toList)
    (hends : ∃ c, sep.toList.head? = some c ∧ Scan.endsWord c = true) (hne : names ≠ [])
    (h : ∀ w ∈ names, Synthesis.isPathName w = true) :
    parse (sep.intercalate names) = ofSegments? (dropCrate names) := by
  have hwords : ∀ w ∈ names, isIdentifier w = true := fun w hw => isIdentifier_of_isPathName (h w hw)
  obtain ⟨hscans, hstart⟩ := scans_names hsep hends hne hwords
  have htrim : trim (sep.intercalate names) = sep.intercalate names := by
    refine trim_eq_self (fun c hc => ?_) (getLast?_names hne hwords)
    obtain ⟨d, hd, hstart⟩ := hstart
    obtain rfl := Option.some.inj (hc.symm.trans hd)
    rw [Bool.eq_false_iff]
    intro hblank
    rw [isStart_of_isBlank hblank] at hstart
    cases hstart
  refine parse_of_tokens hne (fun w hw => isSegment_of_isPathName (h w hw)) ?_
  rw [htrim]
  exact tokens?_of_scans hstart hscans

/-- The path whose parts are the segments of a path is that path. -/
theorem ofSegments?_segments (p : TypePath) : ofSegments? p.segments = some p := by
  simp [ofSegments?, segments]

theorem dropCrate_of_ne {names : List String} (h : names.head? ≠ some "crate") :
    dropCrate names = names := by
  unfold dropCrate
  split
  · exact absurd rfl h
  · rfl

/-- **The text of a full name** denotes the full name. -/
theorem parse_display (h : p.IsDeclared) : parse p.display = some p := by
  have hcrate : dropCrate p.segments = p.segments :=
    dropCrate_of_ne fun hhead => h.ne_crate "crate" (List.mem_of_mem_head? hhead) rfl
  rw [display, parse_names spells_colons ⟨':', rfl, by decide⟩ p.segments_ne_nil h.isPathName, hcrate,
    ofSegments?_segments]

end TypePath

end TypeFoundry
