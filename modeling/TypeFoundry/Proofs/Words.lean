import TypeFoundry.Naming.TypePath

/-!
# Words in source text

A word in front of a character that cannot continue it is scanned as that word: no literal and no
mark starts there (`literalEnd_word`, `mark_word`), and the longest word there is the word itself
(`leaf_word`). This
holds of raw words as well (`leaf_raw`), so of every text that is an identifier (`leaf_identifier`).
-/

set_option autoImplicit false

namespace TypeFoundry.Source.Scan

open Text

/-! ## Characters -/

/-- What is computed of the characters of a list holds of them. The list is gone through, not all
characters. -/
theorem forall_mem_of_all {p : Char → Prop} [DecidablePred p] {cs : List Char}
    (h : (cs.all fun c => p c) = true) : ∀ c ∈ cs, p c := by
  simpa using h

/-- The code points that separate lexemes. -/
def separatorPoints : List Nat :=
  [0x09, 0x0a, 0x0b, 0x0c, 0x0d, 0x20, 0x85, 0xa0, 0x1680, 0x2000, 0x2001, 0x2002, 0x2003, 0x2004,
   0x2005, 0x2006, 0x2007, 0x2008, 0x2009, 0x200a, 0x200e, 0x200f, 0x2028, 0x2029, 0x202f, 0x205f,
   0x3000]

theorem toNat_of_isSeparator {c : Char} (h : isSeparator c = true) :
    c.toNat ∈ separatorPoints := by
  simp only [isSeparator, isBlank, Bool.or_eq_true, Bool.and_eq_true, beq_iff_eq,
    decide_eq_true_eq] at h
  have hrun : ∀ first count, (∀ k < count, first + k ∈ separatorPoints) →
      ∀ n, first ≤ n → n < first + count → n ∈ separatorPoints := by
    intro first count hall n hfirst hlast
    obtain ⟨k, rfl⟩ := Nat.exists_eq_add_of_le hfirst
    exact hall k (by omega)
  rcases h with (h | rfl) | rfl
  · generalize c.toNat = n at h
    by_cases hcontrol : 0x09 ≤ n ∧ n ≤ 0x0d
    · exact hrun 0x09 5 (by decide) n hcontrol.1 (by omega)
    by_cases hspace : 0x2000 ≤ n ∧ n ≤ 0x200a
    · exact hrun 0x2000 11 (by decide) n hspace.1 (by omega)
    simp only [hcontrol, hspace, or_false] at h
    rcases h with (((((((rfl | rfl) | rfl) | rfl) | rfl) | rfl) | rfl) | rfl) | rfl <;> decide
  · decide
  · decide

/-- No identifier starts with a separator. -/
theorem isStart_of_isSeparator {c : Char} (h : isSeparator c = true) :
    Identifier.isStart c = false := by
  have hn : ∀ n ∈ separatorPoints, Identifier.isStart (Char.ofNat n) = false := by decide +kernel
  have := hn _ (toNat_of_isSeparator h)
  rwa [Char.ofNat_toNat] at this

/-- A character that no identifier starts with is no start of a given word. -/
theorem ne_of_isStart {c d : Char} (hc : Identifier.isStart c = true)
    (hd : Identifier.isStart d = false) : d ≠ c := by
  rintro rfl
  rw [hd] at hc
  cases hc

theorem not_isDigit_of_isStart {c : Char} (h : Identifier.isStart c = true) :
    c.isDigit = false := by
  rw [Bool.eq_false_iff]
  intro hd
  have hn : ∀ n < 58, 48 ≤ n → Identifier.isStart (Char.ofNat n) = false := by decide
  have hr : 48 ≤ c.toNat ∧ c.toNat ≤ 57 := by
    simp only [Char.isDigit, Bool.and_eq_true, decide_eq_true_eq, ge_iff_le] at hd
    exact hd
  have := hn c.toNat (by omega) hr.1
  rw [Char.ofNat_toNat, h] at this
  cases this

/-- Whether a word ends in front of the character, and is no beginning of a literal there. -/
def endsWord (c : Char) : Bool := !Identifier.isContinue c && c != '"' && c != '\'' && c != '#'

/-- No text starts behind a letter here. -/
def IsTame (cs : List Char) : Prop := ∀ c ∈ cs.head?, c ≠ '"' ∧ c ≠ '\'' ∧ c ≠ '#'

theorem IsTame.append {w rest : List Char} (hw : ∀ c ∈ w, Identifier.isContinue c = true)
    (hr : ∀ c ∈ rest.head?, endsWord c = true) : IsTame (w ++ rest) := by
  cases w with
  | nil =>
    intro c hc
    have := hr c hc
    simp only [endsWord, Bool.and_eq_true, bne_iff_ne, ne_eq] at this
    exact ⟨this.1.1.2, this.1.2, this.2⟩
  | cons d w =>
    intro c hc
    simp only [List.cons_append, List.head?_cons, Option.mem_def, Option.some.injEq] at hc
    subst hc
    have hd := hw d List.mem_cons_self
    refine ⟨?_, ?_, ?_⟩ <;> (rintro rfl; revert hd; decide)

/-- A letter in front of what follows a word belongs to the word. -/
theorem IsTame.behind {w rest tail : List Char} {x : Char}
    (hw : ∀ c ∈ w, Identifier.isContinue c = true) (hr : ∀ c ∈ rest.head?, endsWord c = true)
    (hx : Identifier.isContinue x = true) (h : w ++ rest = x :: tail) : IsTame tail := by
  cases w with
  | nil =>
    have := hr x (by simp only [List.nil_append] at h; simp [h])
    simp [endsWord, hx] at this
  | cons d w =>
    simp only [List.cons_append, List.cons.injEq] at h
    rw [← h.2]
    exact .append (fun c hc => hw c (List.mem_cons_of_mem _ hc)) hr

/-! ## Beginnings -/

theorem after?_eq_some {start : String} {cs tail : List Char} :
    after? start cs = some tail ↔ cs = start.toList ++ tail := by
  unfold after?
  constructor
  · intro h
    split at h
    · rename_i hp
      obtain ⟨t, rfl⟩ := List.isPrefixOf_iff_prefix.1 hp
      simp only [Option.some.injEq, ← String.length_toList, List.drop_left] at h
      rw [h]
    · cases h
  · rintro rfl
    simp [List.isPrefixOf_iff_prefix, ← String.length_toList]

theorem after?_eq_none (start : String) {x c : Char} {xs cs : List Char}
    (hs : start.toList = x :: xs) (hx : x ≠ c) : after? start (c :: cs) = none := by
  rw [Option.eq_none_iff_forall_ne_some]
  intro tail h
  rw [after?_eq_some, hs, List.cons_append, List.cons.injEq] at h
  exact hx h.1.symm

theorem startsWith_eq_false (start : String) {x c : Char} {xs cs : List Char}
    (hs : start.toList = x :: xs) (hx : x ≠ c) : startsWith (c :: cs) start = false := by
  simp [startsWith, hs, List.isPrefixOf, hx]

/-! ## No literal, no mark -/

theorem raw_of_isTame {a : Alphabet} {cs : List Char} (h : IsTame cs) : raw a cs = none := by
  cases cs with
  | nil => rfl
  | cons c cs =>
    obtain ⟨h1, -, h3⟩ := h c rfl
    simp [raw, h3, after?, List.isPrefixOf, Ne.symm h1]

theorem stringOf_eq_none {a : Alphabet} {letter : String} {cs : List Char}
    (hq : after? (letter ++ "\"") cs = none)
    (hr : ∀ tail, after? (letter ++ "r") cs = some tail → raw a tail = none) :
    stringOf a letter cs = none := by
  simp only [stringOf, hq, Option.bind_eq_none_iff]
  exact hr

theorem intDigits_of_isStart {c : Char} {cs : List Char} (h : Identifier.isStart c = true) :
    intDigits (c :: cs) = none := by
  have h0 : '0' ≠ c := ne_of_isStart h (by decide)
  have hd := not_isDigit_of_isStart h
  have hten : digitsIn 10 true (c :: cs) = none := by
    unfold digitsIn
    split
    · simp
    · simp only [hexValue?, hd]
      split <;> rename_i hv
      · split at hv
        · contradiction
        · split at hv
          · obtain rfl := Option.some.inj hv
            rw [if_neg (by omega)]
            simp
          · split at hv
            · obtain rfl := Option.some.inj hv
              rw [if_neg (by omega)]
              simp
            · cases hv
      · simp
  simp only [intDigits, after?_eq_none "0x" rfl h0, after?_eq_none "0o" rfl h0,
    after?_eq_none "0b" rfl h0, hten]

section

variable {c : Char} {w rest : List Char} (hc : Identifier.isStart c = true)
  (hw : ∀ d ∈ w, Identifier.isContinue d = true) (hr : ∀ d ∈ rest.head?, endsWord d = true)
include hc hw hr

theorem literalEnd_word : literalEnd (c :: (w ++ rest)) = none := by
  have ht := IsTame.append hw hr
  have hq : '"' ≠ c := ne_of_isStart hc (by decide)
  have hs : '\'' ≠ c := ne_of_isStart hc (by decide)
  have htext : stringOf .text "" (c :: (w ++ rest)) = none := by
    refine stringOf_eq_none (after?_eq_none _ rfl hq) fun tail h => ?_
    rw [after?_eq_some] at h
    obtain ⟨-, rfl⟩ := List.cons.inj h
    exact raw_of_isTame ht
  -- behind `b` or `c` neither a quote nor a hash can follow, nor behind a further `r`
  have hletter : ∀ (a : Alphabet) (letter : String), letter.toList.length = 1 →
      stringOf a letter (c :: (w ++ rest)) = none := by
    intro a letter hl
    obtain ⟨x, hx⟩ := List.length_eq_one_iff.1 hl
    refine stringOf_eq_none ?_ fun tail h => ?_
    · rw [Option.eq_none_iff_forall_ne_some]
      intro tail h
      rw [after?_eq_some, String.toList_append, hx] at h
      obtain ⟨-, h⟩ := List.cons.inj h
      exact (ht '"' (by rw [h]; rfl)).1 rfl
    · rw [after?_eq_some, String.toList_append, hx] at h
      obtain ⟨-, h⟩ := List.cons.inj h
      exact raw_of_isTame (IsTame.behind hw hr (x := 'r') (by decide) h)
  have hbyte : after? "b'" (c :: (w ++ rest)) = none := by
    rw [Option.eq_none_iff_forall_ne_some]
    intro tail h
    rw [after?_eq_some] at h
    obtain ⟨-, h⟩ := List.cons.inj h
    exact (ht '\'' (by rw [h]; rfl)).2.1 rfl
  have hfloat : floatDigits (c :: (w ++ rest)) = none := by
    simp [floatDigits, not_isDigit_of_isStart hc]
  simp [literalEnd, htext, hletter .bytes "b" rfl, hletter .nulFree "c" rfl, hbyte,
    after?_eq_none "'" rfl hs, hfloat, intDigits_of_isStart hc]

omit hw hr in
theorem mark_word (cs : List Char) : mark (c :: cs) = none := by
  have hs : '/' ≠ c := ne_of_isStart hc (by decide)
  have hm : c ∉ marks := by
    intro h
    have hn : ∀ d ∈ marks, Identifier.isStart d = false := forall_mem_of_all (by decide)
    rw [hn c h] at hc
    cases hc
  simp [mark, markChar, startsWith_eq_false "//" rfl hs,
    startsWith_eq_false "/*" rfl hs, hm]

theorem plainWord_append : plainWord (c :: (w ++ rest)) = some (c :: w, rest) := by
  have hstop : ∀ d ∈ rest.head?, Identifier.isContinue d = false := fun d hd => by
    have := hr d hd
    simp only [endsWord, Bool.and_eq_true, Bool.not_eq_true'] at this
    exact this.1.1.1
  have htake : (w ++ rest).takeWhile Identifier.isContinue = w := by
    rw [List.takeWhile_append_of_pos hw]
    cases rest with
    | nil => simp
    | cons d rest => simp [hstop d (by simp)]
  have hdrop : (w ++ rest).dropWhile Identifier.isContinue = rest := by
    rw [List.dropWhile_append_of_pos hw]
    cases rest with
    | nil => simp
    | cons d rest => simp [hstop d (by simp)]
  simp [plainWord, hc, htake, hdrop]

theorem leaf_word :
    leaf (c :: (w ++ rest)) = some (.word (.ofList (c :: w)), rest) := by
  have ht := IsTame.append hw hr
  have hquote : ∀ y ∈ ['"', '\'', '#'], ∀ t, y :: t ≠ w ++ rest := by
    intro y hy t h
    have := ht y (by rw [← h]; rfl)
    simp [this] at hy
  have hquote' : ∀ y ∈ ['"', '\'', '#'], ∀ t, 'r' :: y :: t ≠ w ++ rest := by
    intro y hy t h
    have := IsTame.behind hw hr (x := 'r') (by decide) h.symm y rfl
    simp [this] at hy
  have hstarts : literalStarts.any (startsWith (c :: (w ++ rest))) = false := by
    rw [Bool.eq_false_iff]
    intro h
    simp only [literalStarts, List.any_cons, List.any_nil, Bool.or_false, Bool.or_eq_true,
      startsWith, List.isPrefixOf_iff_prefix] at h
    rcases h with ⟨t, h⟩ | ⟨t, h⟩ | ⟨t, h⟩ | ⟨t, h⟩ | ⟨t, h⟩ | ⟨t, h⟩ | ⟨t, h⟩ | ⟨t, h⟩ | ⟨t, h⟩ |
      ⟨t, h⟩ <;> obtain ⟨-, h⟩ := List.cons.inj h <;>
      first
        | exact hquote _ (by decide) _ h
        | exact hquote' _ (by decide) _ h
  have hraw : after? "r#" (c :: (w ++ rest)) = none := by
    rw [Option.eq_none_iff_forall_ne_some]
    intro tail h
    rw [after?_eq_some] at h
    obtain ⟨-, h⟩ := List.cons.inj h
    exact (ht '#' (by rw [h]; rfl)).2.2 rfl
  simp [leaf, literalEnd_word hc hw hr, mark_word hc, word, hstarts, anyWord, hraw,
    plainWord_append hc hw hr]

/-- A raw word is scanned whole: neither a raw string nor a word `r` stands there. -/
theorem leaf_raw (hn : neverRaw.contains (String.ofList (c :: w)) = false) :
    leaf ('r' :: '#' :: c :: (w ++ rest)) = some (.word (.ofList ('r' :: '#' :: c :: w)), rest) := by
  have hq : '"' ≠ c := ne_of_isStart hc (by decide)
  have hh : '#' ≠ c := ne_of_isStart hc (by decide)
  have hlit : literalEnd ('r' :: '#' :: c :: (w ++ rest)) = none := by
    have htext : stringOf .text "" ('r' :: '#' :: c :: (w ++ rest)) = none := by
      refine stringOf_eq_none (after?_eq_none _ rfl (by decide)) fun tail h => ?_
      rw [after?_eq_some] at h
      obtain ⟨-, rfl⟩ := List.cons.inj h
      simp [raw, Ne.symm hh, after?, List.isPrefixOf, hq]
    have hint : intDigits ('r' :: '#' :: c :: (w ++ rest)) = none :=
      intDigits_of_isStart (by decide)
    rw [literalEnd, htext]
    simp [stringOf, after?, List.isPrefixOf, floatDigits, hint]
  have hstarts : literalStarts.any (startsWith ('r' :: '#' :: c :: (w ++ rest))) = false := by
    simp [literalStarts, startsWith, List.isPrefixOf, hq, hh]
  have hafter : after? "r#" ('r' :: '#' :: c :: (w ++ rest)) = some (c :: (w ++ rest)) :=
    after?_eq_some.2 rfl
  rw [leaf, hlit, mark_word (by decide)]
  simp only [word, hstarts, Bool.false_eq_true, ↓reduceIte, anyWord, hafter,
    plainWord_append hc hw hr, Option.bind_eq_bind, Option.bind_some, hn, Option.map_some]

end

/-- **Any identifier** is scanned as the word that it is. -/
theorem leaf_identifier {w : String} {rest : List Char} (hw : isIdentifier w = true)
    (hr : ∀ c ∈ rest.head?, endsWord c = true) : leaf (w.toList ++ rest) = some (.word w, rest) := by
  rw [← String.ofList_toList (s := w)] at hw ⊢
  generalize w.toList = cs at *
  simp only [isIdentifier, String.toList_ofList] at hw ⊢
  split at hw
  · rename_i tail
    simp only [Bool.and_eq_true, Bool.not_eq_true'] at hw
    cases tail with
    | nil => simp [Identifier.isWord] at hw
    | cons c tail =>
      simp only [Identifier.isWord, Bool.and_eq_true, List.all_eq_true] at hw
      exact leaf_raw hw.1.1 hw.1.2 hr hw.2
  · cases cs with
    | nil => simp [Identifier.isWord] at hw
    | cons c tail =>
      simp only [Identifier.isWord, Bool.and_eq_true, List.all_eq_true] at hw
      exact leaf_word hw.1 hw.2 hr

/-- An identifier starts like a word, raw or not. -/
theorem head_identifier {w : String} (hw : isIdentifier w = true) :
    ∃ c cs, w.toList = c :: cs ∧ Identifier.isStart c = true := by
  simp only [isIdentifier] at hw
  split at hw
  · rename_i tail h
    exact ⟨_, _, h, by decide⟩
  · rename_i h
    cases hc : w.toList with
    | nil => simp [hc, Identifier.isWord] at hw
    | cons c cs =>
      rw [hc] at hw
      simp only [Identifier.isWord, Bool.and_eq_true] at hw
      exact ⟨c, cs, rfl, hw.1⟩

end TypeFoundry.Source.Scan
