import TypeFoundry.Proofs.Words

/-!
# Scanning a text piece by piece

`Scans ds cs ls`: with the delimiters `ds` open, the text `cs` is cut into the lexemes `ls`. Its
rules read a text from the right, one piece a rule, so that a text put together from pieces is
scanned by putting the rules together. `Spells ends ts cs` is the same for a piece: in front of every
text that starts with a character of `ends`, the piece `cs` is the token trees `ts`. Flattened token
trees are planted again as they were (`trees_flatAll`).
-/

set_option autoImplicit false

namespace TypeFoundry.Source

open Scan

/-! ## Lexemes of a text -/

/-- With the delimiters open, innermost first, the text is cut into the lexemes. -/
def Scans (ds : List Delimiter) (cs : List Char) (ls : List Lexeme) : Prop :=
  ∀ fuel > cs.length, ∀ stack : List (Delimiter × List Char), stack.map Prod.fst = ds →
    ∃ placed, lexemes fuel stack cs = .ok placed ∧ placed.map Placed.lexeme = ls

theorem skipBlanks_separator {c : Char} (h : isSeparator c = true) (cs : List Char) :
    skipBlanks (c :: cs) = skipBlanks cs := by
  simp [skipBlanks, skip, h]

/-- Nothing is skipped where neither a blank nor a comment starts. -/
theorem skipBlanks_eq_self {c : Char} {cs : List Char} (h : isSeparator c = false)
    (hl : isLineComment (c :: cs) = false) (hb : isBlockComment (c :: cs) = false) :
    skipBlanks (c :: cs) = c :: cs := by
  simp [skipBlanks, skip, h, hl, hb]

theorem skipBlanks_of_ne {c : Char} (h : isSeparator c = false) (hs : '/' ≠ c) (cs : List Char) :
    skipBlanks (c :: cs) = c :: cs := by
  have hl : isLineComment (c :: cs) = false := by
    simp [isLineComment, startsWith_eq_false "//" rfl hs]
  have hb : isBlockComment (c :: cs) = false := by
    simp [isBlockComment, startsWith_eq_false "/**/" rfl hs,
      startsWith_eq_false "/*" rfl hs]
  exact skipBlanks_eq_self h hl hb

theorem docComment_of_ne {c : Char} (hs : '/' ≠ c) (cs : List Char) :
    docComment (c :: cs) = none := by
  simp [docComment, startsWith_eq_false "//!" rfl hs,
    startsWith_eq_false "/*!" rfl hs, startsWith_eq_false "///" rfl hs,
    startsWith_eq_false "/**" rfl hs]

namespace Scans

variable {ds : List Delimiter} {cs rest : List Char} {ls : List Lexeme} {c : Char}

theorem nil : Scans [] [] [] := by
  intro fuel hf stack hst
  obtain ⟨f, rfl⟩ : ∃ f, fuel = f + 1 := ⟨fuel - 1, by simp at hf; omega⟩
  obtain rfl := List.map_eq_nil_iff.1 hst
  exact ⟨[], rfl, rfl⟩

theorem separator (hc : isSeparator c = true) (h : Scans ds cs ls) : Scans ds (c :: cs) ls := by
  intro fuel hf stack hst
  simp only [List.length_cons] at hf
  obtain ⟨f, rfl⟩ : ∃ f, fuel = f + 1 := ⟨fuel - 1, by omega⟩
  obtain ⟨placed, hp, hl⟩ := h (f + 1) (by omega) stack hst
  refine ⟨placed, ?_, hl⟩
  unfold lexemes at hp ⊢
  rw [skipBlanks_separator hc]
  exact hp

theorem blanks {s : List Char} (hs : ∀ c ∈ s, isSeparator c = true) (h : Scans ds cs ls) :
    Scans ds (s ++ cs) ls := by
  induction s with
  | nil => exact h
  | cons c s ih =>
    exact .separator (hs c List.mem_cons_self) (ih fun d hd => hs d (List.mem_cons_of_mem _ hd))

theorem opening {d : Delimiter} (h : Scans (d :: ds) cs ls) :
    Scans ds (d.opener :: cs) (.opening d :: ls) := by
  intro fuel hf stack hst
  simp only [List.length_cons] at hf
  obtain ⟨f, rfl⟩ : ∃ f, fuel = f + 1 := ⟨fuel - 1, by omega⟩
  obtain ⟨placed, hp, hl⟩ := h f (by omega) ((d, d.opener :: cs) :: stack) (by simp [hst])
  refine ⟨⟨.opening d, d.opener :: cs⟩ :: placed, ?_, by simp [hl]⟩
  have hsep : isSeparator d.opener = false := by cases d <;> decide
  have hslash : '/' ≠ d.opener := by cases d <;> decide
  have hopen : opening? d.opener = some d := by cases d <;> decide
  unfold lexemes
  simp only [skipBlanks_of_ne hsep hslash, docComment_of_ne hslash, hopen, hp]
  rfl

theorem closing {d : Delimiter} (h : Scans ds cs ls) :
    Scans (d :: ds) (d.closer :: cs) (.closing d :: ls) := by
  intro fuel hf stack hst
  simp only [List.length_cons] at hf
  obtain ⟨f, rfl⟩ : ∃ f, fuel = f + 1 := ⟨fuel - 1, by omega⟩
  obtain ⟨⟨e, here⟩, outer, rfl, rfl, houter⟩ := List.map_eq_cons_iff.1 hst
  obtain ⟨placed, hp, hl⟩ := h f (by omega) outer houter
  refine ⟨⟨.closing e, e.closer :: cs⟩ :: placed, ?_, by simp [hl]⟩
  have hsep : isSeparator e.closer = false := by cases e <;> decide
  have hslash : '/' ≠ e.closer := by cases e <;> decide
  have hopen : opening? e.closer = none := by cases e <;> decide
  have hclose : closing? e.closer = some e := by cases e <;> decide
  unfold lexemes
  simp only [skipBlanks_of_ne hsep hslash, docComment_of_ne hslash, hopen, hclose, hp, ↓reduceIte]
  rfl

/-- A lexeme that is no delimiter, behind no blank. -/
theorem leaf {l : Lexeme} (hsep : isSeparator c = false) (hslash : '/' ≠ c)
    (hopen : opening? c = none) (hclose : closing? c = none)
    (hleaf : Scan.leaf (c :: cs) = some (l, rest)) (hlen : rest.length ≤ cs.length)
    (h : Scans ds rest ls) : Scans ds (c :: cs) (l :: ls) := by
  intro fuel hf stack hst
  simp only [List.length_cons] at hf
  obtain ⟨f, rfl⟩ : ∃ f, fuel = f + 1 := ⟨fuel - 1, by omega⟩
  obtain ⟨placed, hp, hl⟩ := h f (by omega) stack hst
  refine ⟨⟨l, c :: cs⟩ :: placed, ?_, by simp [hl]⟩
  unfold lexemes
  simp only [skipBlanks_of_ne hsep hslash, docComment_of_ne hslash, hopen, hclose, hleaf, hp]
  rfl

/-- **A word** in front of a character that ends it. -/
theorem word {w : String} (hw : isIdentifier w = true) (hr : ∀ c ∈ cs.head?, endsWord c = true)
    (h : Scans ds cs ls) : Scans ds (w.toList ++ cs) (.word w :: ls) := by
  have hleaf := leaf_identifier hw hr
  obtain ⟨c, tail, hc, hstart⟩ := head_identifier hw
  rw [hc] at hleaf ⊢
  have hsep : isSeparator c = false := by
    rw [Bool.eq_false_iff]
    intro hs
    rw [isStart_of_isSeparator hs] at hstart
    cases hstart
  have hne : ∀ d, Text.Identifier.isStart d = false → d ≠ c := fun d => ne_of_isStart hstart
  have hopen : opening? c = none := by
    simp [opening?, hne '(' (by decide), hne '{' (by decide), hne '[' (by decide),
      Delimiter.opener]
  have hclose : closing? c = none := by
    simp [closing?, hne ')' (by decide), hne '}' (by decide), hne ']' (by decide),
      Delimiter.closer]
  exact leaf hsep (hne '/' (by decide)) hopen hclose hleaf (by simp) h

/-- The marks of source units. -/
def unitMarks : List Char := [':', ',', ';', '<', '>', '*', '#', '!', '=']

/-- A mark is a lexeme of its own. -/
theorem leaf_mark (hc : c ∈ unitMarks) (cs : List Char) :
    Scan.leaf (c :: cs) = some (.mark c (markChar cs).isSome, cs) := by
  have hne : ∀ d ∈ ['/', '\'', '"', 'r', 'b', 'c', '0', '_'], d ≠ c := by
    have : ∀ c ∈ unitMarks, c ∉ ['/', '\'', '"', 'r', 'b', 'c', '0', '_'] :=
      forall_mem_of_all (by decide)
    rintro d hd rfl
    exact this d hc hd
  have hdigit : c.isDigit = false ∧ hexValue? c = none := by
    have : ∀ c ∈ unitMarks, c.isDigit = false ∧ hexValue? c = none :=
      forall_mem_of_all (by decide)
    exact this c hc
  have hmarks : marks.contains c = true := by
    have : ∀ c ∈ unitMarks, marks.contains c = true := forall_mem_of_all (by decide)
    exact this c hc
  have h0 := hne '0' (by decide)
  have hslash := hne '/' (by decide)
  have hint : intDigits (c :: cs) = none := by
    simp [intDigits, after?_eq_none "0x" rfl h0, after?_eq_none "0o" rfl h0,
      after?_eq_none "0b" rfl h0, digitsIn, hdigit.2, Ne.symm (hne '_' (by decide))]
  have hstring : ∀ (a : Alphabet) (letter : String) (x : Char) (xs ys : List Char),
      (letter ++ "\"").toList = x :: xs → (letter ++ "r").toList = x :: ys → x ≠ c →
      stringOf a letter (c :: cs) = none := by
    intro a letter x xs ys hx hy hxc
    exact stringOf_eq_none (after?_eq_none _ hx hxc)
      (fun tail ht => by rw [after?_eq_none _ hy hxc] at ht; cases ht)
  have hlit : literalEnd (c :: cs) = none := by
    have htext : stringOf .text "" (c :: cs) = none :=
      stringOf_eq_none (after?_eq_none _ rfl (hne '"' (by decide))) fun tail ht => by
        rw [after?_eq_none _ (x := 'r') rfl (hne 'r' (by decide))] at ht
        cases ht
    simp [literalEnd, htext, hstring .bytes "b" 'b' _ _ rfl rfl (hne 'b' (by decide)),
      hstring .nulFree "c" 'c' _ _ rfl rfl (hne 'c' (by decide)),
      after?_eq_none "b'" rfl (hne 'b' (by decide)),
      after?_eq_none "'" rfl (hne '\'' (by decide)), floatDigits, hdigit.1, hint]
  have hmark : Scan.mark (c :: cs) = some (.mark c (markChar cs).isSome, cs) := by
    have hq := hne '\'' (by decide)
    simp [Scan.mark, markChar, startsWith_eq_false "//" rfl hslash,
      startsWith_eq_false "/*" rfl hslash, Ne.symm hq, List.contains_iff_mem.1 hmarks]
  simp [Scan.leaf, hlit, hmark]

/-- What a mark of units is not. -/
theorem not_special_mark (hc : c ∈ unitMarks) :
    '/' ≠ c ∧ isSeparator c = false ∧ opening? c = none ∧ closing? c = none := by
  have : ∀ c ∈ unitMarks, '/' ≠ c ∧ isSeparator c = false ∧ opening? c = none ∧ closing? c = none :=
    forall_mem_of_all (by decide)
  exact this c hc

/-- **A mark** is joint if another mark follows it. -/
theorem mark (hc : c ∈ unitMarks) (h : Scans ds cs ls) :
    Scans ds (c :: cs) (.mark c (markChar cs).isSome :: ls) := by
  obtain ⟨hslash, hsep, hopen, hclose⟩ := not_special_mark hc
  exact leaf hsep hslash hopen hclose (leaf_mark hc cs) (Nat.le_refl _) h

/-! ### Documentation comments -/

theorem restOfLine_append {text : List Char} (ht : ∀ c ∈ text, c ≠ '\n' ∧ c ≠ '\r')
    (rest : List Char) : restOfLine (text ++ '\n' :: rest) = (text, '\n' :: rest) := by
  induction text with
  | nil => rfl
  | cons c text ih =>
    have hc := ht c List.mem_cons_self
    have ih := ih fun d hd => ht d (List.mem_cons_of_mem _ hd)
    unfold restOfLine
    split
    · simp_all
    · simp_all
    · simp_all
    · simp_all

theorem noBareReturn_of_notMem {text : List Char} (ht : ∀ c ∈ text, c ≠ '\n' ∧ c ≠ '\r') :
    noBareReturn text = true := by
  induction text with
  | nil => rfl
  | cons c text ih =>
    have hc := ht c List.mem_cons_self
    have ih := ih fun d hd => ht d (List.mem_cons_of_mem _ hd)
    unfold noBareReturn
    split <;> simp_all

theorem ofDoc {text : List Char} {inner : Bool} (hskip : skipBlanks cs = cs)
    (hdoc : docComment cs = some (text, inner, rest)) (hlen : rest.length < cs.length)
    (h : Scans ds rest ls) : Scans ds cs (docLexemes text inner ++ ls) := by
  intro fuel hf stack hst
  obtain ⟨f, rfl⟩ : ∃ f, fuel = f + 1 := ⟨fuel - 1, by omega⟩
  obtain ⟨placed, hp, hl⟩ := h f (by omega) stack hst
  refine ⟨(docLexemes text inner).map (⟨·, cs⟩) ++ placed, ?_, ?_⟩
  · unfold lexemes
    simp only [hskip, hdoc, hp]
    rfl
  · simp [hl, Function.comp_def]

/-- **A line that documents what encloses it** is the attribute that it stands for. -/
theorem innerDoc {text : List Char} (ht : ∀ c ∈ text, c ≠ '\n' ∧ c ≠ '\r')
    (h : Scans ds ('\n' :: rest) ls) :
    Scans ds ("//!".toList ++ (text ++ '\n' :: rest)) (docLexemes text true ++ ls) := by
  refine ofDoc ?_ ?_ (by simp; omega) h
  · simp [skipBlanks, skip, isSeparator, Text.isBlank, isLineComment, isBlockComment, startsWith,
      List.isPrefixOf]
  · simp [docComment, startsWith, List.isPrefixOf, restOfLine_append ht,
      noBareReturn_of_notMem ht]

/-- **A line that documents what follows it** is the attribute that it stands for. -/
theorem outerDoc {text : List Char} (ht : ∀ c ∈ text, c ≠ '\n' ∧ c ≠ '\r')
    (hs : text.head? ≠ some '/') (h : Scans ds ('\n' :: rest) ls) :
    Scans ds ("///".toList ++ (text ++ '\n' :: rest)) (docLexemes text false ++ ls) := by
  have hfour : startsWith ("///".toList ++ (text ++ '\n' :: rest)) "////" = false := by
    cases text with
    | nil => rfl
    | cons c text =>
      have : '/' ≠ c := fun h => hs (by rw [← h]; rfl)
      simp [startsWith, List.isPrefixOf, this]
  have hthree : startsWith ("///".toList ++ (text ++ '\n' :: rest)) "///" = true := by
    simp [startsWith, List.isPrefixOf]
  refine ofDoc ?_ ?_ (by simp; omega) h
  · have hl : isLineComment ("///".toList ++ (text ++ '\n' :: rest)) = false := by
      simp only [isLineComment, hfour, hthree]
      simp
    have hb : isBlockComment ("///".toList ++ (text ++ '\n' :: rest)) = false := by
      simp [isBlockComment, startsWith, List.isPrefixOf]
    exact skipBlanks_eq_self (by decide) hl hb
  · have hb : startsWith ("///".toList ++ (text ++ '\n' :: rest)) "//!" = false := by
      simp [startsWith, List.isPrefixOf]
    have hb' : startsWith ("///".toList ++ (text ++ '\n' :: rest)) "/*!" = false := by
      simp [startsWith, List.isPrefixOf]
    simp only [docComment, hfour, hthree, hb, hb']
    simp [restOfLine_append ht, noBareReturn_of_notMem ht]

end Scans

/-! ## Token trees and their lexemes -/

namespace TokenTree

mutual

/-- The lexemes of the token tree in order. -/
def flat : TokenTree → List Lexeme
  | word w => [.word w]
  | mark c j => [.mark c j]
  | literal t => [.literal t]
  | group d inner => .opening d :: (flatAll inner ++ [.closing d])

/-- The lexemes of the token trees in order. -/
def flatAll : List TokenTree → List Lexeme
  | [] => []
  | t :: ts => flat t ++ flatAll ts

end

theorem flatAll_append (xs ys : List TokenTree) : flatAll (xs ++ ys) = flatAll xs ++ flatAll ys := by
  induction xs with
  | nil => rfl
  | cons x xs ih => simp [flatAll, ih]

mutual

theorem plant_flat (t : TokenTree) {ls : List Lexeme} {init stack : List Tokens} {top : Tokens}
    (h : ls.foldr plant init = top :: stack) :
    (t.flat ++ ls).foldr plant init = (t :: top) :: stack := by
  cases t with
  | word w => simp [flat, h, plant]
  | mark c j => simp [flat, h, plant]
  | literal s => simp [flat, h, plant]
  | group d inner =>
    have hclose : (Lexeme.closing d :: ls).foldr plant init = [] :: top :: stack := by
      simp [h, plant]
    have hinner := plant_flatAll inner hclose
    simp only [flat, List.cons_append, List.append_assoc, List.nil_append, List.foldr_cons]
    rw [hinner, List.append_nil]
    rfl

theorem plant_flatAll (ts : List TokenTree) {ls : List Lexeme} {init stack : List Tokens}
    {top : Tokens} (h : ls.foldr plant init = top :: stack) :
    (flatAll ts ++ ls).foldr plant init = (ts ++ top) :: stack := by
  cases ts with
  | nil => exact h
  | cons t ts =>
    have := plant_flat t (plant_flatAll ts h)
    simpa [flatAll] using this

end

end TokenTree

open TokenTree (flatAll flatAll_append)

/-- Planting the lexemes of token trees gives the trees back. -/
theorem trees_flatAll (ts : Tokens) : trees (flatAll ts) = ts := by
  have h := @TokenTree.plant_flatAll ts [] [[]] [] [] rfl
  simp only [List.append_nil] at h
  simp [trees, h]

/-! ## Pieces of a text -/

/-- In front of every text that starts with one of the characters `ends`, the piece of text is cut
into the lexemes of the token trees. -/
def Spells (ends : Char → Bool) (ts : Tokens) (cs : List Char) : Prop :=
  ∀ (ds : List Delimiter) (rest : List Char) (ls : List Lexeme),
    (∃ c, rest.head? = some c ∧ ends c = true) → Scans ds rest ls →
    Scans ds (cs ++ rest) (flatAll ts ++ ls)

namespace Spells

variable {ends ends' : Char → Bool} {ts us : Tokens} {cs bs : List Char}

theorem mono (h : Spells ends ts cs) (he : ∀ c, ends' c = true → ends c = true) :
    Spells ends' ts cs := fun ds rest ls ⟨c, hc, hends⟩ hs => h ds rest ls ⟨c, hc, he c hends⟩ hs

/-- Pieces one behind the other, the second of which starts with a character that ends the first. -/
theorem append (h : Spells ends ts cs) (h' : Spells ends' us bs)
    (hb : ∃ c, bs.head? = some c ∧ ends c = true) : Spells ends' (ts ++ us) (cs ++ bs) := by
  intro ds rest ls hr hs
  obtain ⟨c, hc, hends⟩ := hb
  have hhead : (bs ++ rest).head? = some c := by
    cases bs with
    | nil => cases hc
    | cons b bs => exact hc
  have := h ds (bs ++ rest) (flatAll us ++ ls) ⟨c, hhead, hends⟩ (h' ds rest ls hr hs)
  rwa [← List.append_assoc, ← List.append_assoc, ← flatAll_append] at this

theorem blanks (h : Spells ends ts cs) {s : List Char} (hs : ∀ c ∈ s, isSeparator c = true) :
    Spells ends ts (s ++ cs) := by
  intro ds rest ls hr hrest
  rw [List.append_assoc]
  exact .blanks hs (h ds rest ls hr hrest)

theorem word {w : String} (hw : isIdentifier w = true) : Spells endsWord [.word w] w.toList := by
  intro ds rest ls ⟨c, hc, hends⟩ hs
  exact .word hw (fun d hd => by rw [hc] at hd; cases hd; exact hends) hs

/-- The text between delimiters is a group. -/
theorem group {d : Delimiter} (h : Spells (· == d.closer) ts cs) :
    Spells (fun _ => true) [.group d ts] (d.opener :: (cs ++ [d.closer])) := by
  intro ds rest ls _ hs
  have := h (d :: ds) (d.closer :: rest) (.closing d :: ls) ⟨d.closer, rfl, by simp⟩ hs.closing
  simpa [flatAll, TokenTree.flat] using this.opening

end Spells

end TypeFoundry.Source
