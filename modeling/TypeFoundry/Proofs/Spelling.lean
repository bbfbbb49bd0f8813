import TypeFoundry.Proofs.Filling
import TypeFoundry.Proofs.Lexing

/-!
# Documents whose text is known tokens

A document that writes lines, each of them the text of certain tokens, writes the text of all these
tokens (`spells_of_blockText`), and in braces the text of a group (`spells_braces`). What is said of
a line is which tokens its text may be (`IsLineOf`), since breaking a line can leave a comma behind.
-/

set_option autoImplicit false

namespace TypeFoundry.Source

open Scan Layout
open Scans (unitMarks)

theorem isSome_markChar {c : Char} (hc : c ∈ unitMarks) (rest : List Char) :
    (markChar (c :: rest)).isSome = true := by
  have hslash : '/' ≠ c := by
    have : ∀ c ∈ unitMarks, '/' ≠ c := forall_mem_of_all (by decide +kernel)
    exact this c hc
  have hmarks : marks.contains c = true := by
    have : ∀ c ∈ unitMarks, marks.contains c = true := forall_mem_of_all (by decide +kernel)
    exact this c hc
  simp [markChar, startsWith_eq_false "//" rfl hslash,
    startsWith_eq_false "/*" rfl hslash, List.contains_iff_mem.1 hmarks]

theorem isSome_markChar_eq_false {c : Char} (hc : marks.contains c = false) (rest : List Char) :
    (markChar (c :: rest)).isSome = false := by
  simp only [markChar]
  split
  · rfl
  · rw [if_neg (by rw [hc]; simp)]
    rfl

theorem marks_contains_eq_false {c : Char} (hc : Text.Identifier.isStart c = true) :
    marks.contains c = false := by
  rw [Bool.eq_false_iff]
  intro hm
  have hnone : ∀ d ∈ marks, Text.Identifier.isStart d = false :=
    forall_mem_of_all (by decide +kernel)
  rw [hnone c (List.contains_iff_mem.1 hm)] at hc
  cases hc

namespace Spells

variable {ends ends' : Char → Bool} {ts us : Tokens} {cs bs : List Char}

/-- **A mark** is joint if every text that may follow starts with a mark. -/
theorem mark {c : Char} {isJoint : Bool} (hc : c ∈ unitMarks)
    (he : ∀ d rest, ends d = true → (markChar (d :: rest)).isSome = isJoint) :
    Spells ends [.mark c isJoint] [c] := by
  intro ds rest ls ⟨d, hd, hends⟩ hs
  obtain ⟨tail, rfl⟩ : ∃ tail, rest = d :: tail := by
    cases rest with
    | nil => cases hd
    | cons e tail => exact ⟨tail, by rw [Option.some.inj hd]⟩
  have := Scans.mark hc hs
  rwa [he d tail hends] at this

/-- A mark that something other than a mark follows. -/
theorem loneMark {c : Char} (hc : c ∈ unitMarks) (he : ∀ d, ends d = true → marks.contains d = false) :
    Spells ends [.mark c false] [c] :=
  mark hc fun d rest hd => isSome_markChar_eq_false (he d hd) rest

/-- A mark that another mark of units follows. -/
theorem jointMark {c : Char} (hc : c ∈ unitMarks) (he : ∀ d, ends d = true → d ∈ unitMarks) :
    Spells ends [.mark c true] [c] :=
  mark hc fun d rest hd => isSome_markChar (he d hd) rest

/-- Blanks and line ends are no tokens. -/
theorem gap {s : List Char} (hs : ∀ c ∈ s, isSeparator c = true) : Spells ends [] s :=
  fun _ _ _ _ h => .blanks hs h

/-- A line and the lines below it, if there are any. -/
theorem append_lines (h : Spells (· == '\n') ts cs) (h' : Spells (· == '\n') us bs)
    (hb : ∀ c ∈ bs.head?, c = '\n') : Spells (· == '\n') (ts ++ us) (cs ++ bs) := by
  cases bs with
  | nil =>
    intro ds rest ls hr hs
    have := h ds rest (TokenTree.flatAll us ++ ls) hr (h' ds rest ls hr hs)
    simpa [TokenTree.flatAll_append] using this
  | cons c bs => exact h.append h' ⟨c, rfl, by simp [hb c rfl]⟩

end Spells

/-! ## Documentation -/

/-- The tokens of the attribute that a line of documentation stands for. -/
def docTokens (text : String) (inner : Bool) : Tokens :=
  [.mark '#' false] ++ (if inner then [.mark '!' false] else []) ++
    [.group .bracket [.word "doc", .mark '=' false, .literal (Text.stringLiteral text)]]

theorem flatAll_docTokens (text : String) (inner : Bool) :
    TokenTree.flatAll (docTokens text inner) = Scan.docLexemes text.toList inner := by
  cases inner <;>
    simp [docTokens, Scan.docLexemes, TokenTree.flatAll, TokenTree.flat]

/-! ## Lines -/

/-- The text of a line of one of the token lists. -/
def IsLineOf (T : Tokens → Prop) (cs : List Char) : Prop := ∃ ts, T ts ∧ Spells (· == '\n') ts cs

theorem IsLineOf.innerDoc {text : String} (ht : ∀ c ∈ text.toList, c ≠ '\n' ∧ c ≠ '\r') :
    IsLineOf (· = docTokens text true) ("//!".toList ++ text.toList) := by
  refine ⟨_, rfl, fun ds rest ls ⟨c, hc, hends⟩ hs => ?_⟩
  obtain ⟨tail, rfl⟩ : ∃ tail, rest = '\n' :: tail := by
    cases rest with
    | nil => cases hc
    | cons e tail => exact ⟨tail, by rw [Option.some.inj hc, eq_of_beq hends]⟩
  rw [flatAll_docTokens, List.append_assoc]
  exact .innerDoc ht hs

theorem IsLineOf.outerDoc {text : String} (ht : ∀ c ∈ text.toList, c ≠ '\n' ∧ c ≠ '\r')
    (hs : text.toList.head? ≠ some '/') :
    IsLineOf (· = docTokens text false) ("///".toList ++ text.toList) := by
  refine ⟨_, rfl, fun ds rest ls ⟨c, hc, hends⟩ hrest => ?_⟩
  obtain ⟨tail, rfl⟩ : ∃ tail, rest = '\n' :: tail := by
    cases rest with
    | nil => cases hc
    | cons e tail => exact ⟨tail, by rw [Option.some.inj hc, eq_of_beq hends]⟩
  rw [flatAll_docTokens, List.append_assoc]
  exact .outerDoc ht hs hrest

theorem isSeparator_of_mem_blanks {n : Nat} {c : Char} (h : c ∈ blanks n) : isSeparator c = true := by
  rw [List.eq_of_mem_replicate h]
  decide

/-- **Lines below each other** are the tokens of one after the other. -/
theorem spells_of_blockText {Ts : List (Tokens → Prop)} {b : List Char}
    (h : BlockText (Ts.map IsLineOf) b) :
    ∃ tss, List.Forall₂ (fun T ts => T ts) Ts tss ∧ Spells (· == '\n') tss.flatten b ∧
      ∀ c ∈ b.head?, c = '\n' := by
  generalize hPs : Ts.map IsLineOf = Ps at h
  induction h generalizing Ts with
  | nil =>
    obtain rfl := List.map_eq_nil_iff.1 hPs
    exact ⟨[], .nil, .gap (by simp), by simp⟩
  | @cons P Ps a b i hP hb ih =>
    obtain ⟨T, Ts, rfl, rfl, rfl⟩ := List.map_eq_cons_iff.1 hPs
    obtain ⟨tss, hall, hspells, hhead⟩ := ih rfl
    obtain ⟨ts, hT, hline⟩ := hP
    have hgap : ∀ c ∈ '\n' :: blanks i, isSeparator c = true := by
      intro c hc
      obtain rfl | hc := List.mem_cons.1 hc
      · decide
      · exact isSeparator_of_mem_blanks hc
    exact ⟨ts :: tss, .cons hT hall, (hline.append_lines hspells hhead).blanks hgap, by simp⟩

/-- Lines between braces are a group. -/
theorem spells_braces {ends : Char → Bool} {ts : Tokens} {b : List Char} (j : Nat)
    (h : Spells (· == '\n') ts b) :
    Spells ends [.group .brace ts] ('\x7b' :: (b ++ '\n' :: (blanks j ++ "\x7d".toList))) := by
  have hgap : Spells (· == Delimiter.brace.closer) [] ('\n' :: blanks j) := by
    refine .gap fun c hc => ?_
    obtain rfl | hc := List.mem_cons.1 hc
    · decide
    · exact isSeparator_of_mem_blanks hc
  have := (h.append hgap ⟨'\n', rfl, rfl⟩).group (d := .brace)
  rw [List.append_nil] at this
  have hcs : '\x7b' :: (b ++ '\n' :: (blanks j ++ "\x7d".toList)) =
      Delimiter.brace.opener :: (b ++ '\n' :: blanks j ++ [Delimiter.brace.closer]) := by
    simp [Delimiter.opener, Delimiter.closer]
  rw [hcs]
  exact this.mono fun _ _ => rfl

/-! ## Documents of lines -/

/-- The lines, one after the other, write the text of one of the token lists. -/
def WritesLines (ls : List Line) (T : Tokens → Prop) : Prop :=
  ∃ Ts : List (Tokens → Prop), WritesAll ls (Ts.map IsLineOf) ∧
    ∀ tss, List.Forall₂ (fun T ts => T ts) Ts tss → T tss.flatten

namespace WritesLines

variable {ls ls' : List Line} {T T' : Tokens → Prop}

theorem nil : WritesLines [] (· = []) := by
  refine ⟨[], .nil, fun tss h => ?_⟩
  cases h
  rfl

theorem single {l : Line} (h : Writes l.content (IsLineOf T)) : WritesLines [l] T := by
  refine ⟨[T], .cons h .nil, fun tss htss => ?_⟩
  obtain _ | ⟨hT, hnil⟩ := htss
  cases hnil
  simpa using hT

theorem append (h : WritesLines ls T) (h' : WritesLines ls' T') :
    WritesLines (ls ++ ls') fun ts => ∃ a b, T a ∧ T' b ∧ ts = a ++ b := by
  obtain ⟨Ts, hw, hT⟩ := h
  obtain ⟨Ts', hw', hT'⟩ := h'
  refine ⟨Ts ++ Ts', ?_, fun tss htss => ?_⟩
  · rw [List.map_append]
    exact List.rel_append hw hw'
  · have htake := List.forall₂_take_append tss Ts Ts' htss.flip
    have hdrop := List.forall₂_drop_append tss Ts Ts' htss.flip
    refine ⟨_, _, hT _ htake.flip, hT' _ hdrop.flip, ?_⟩
    rw [← List.flatten_append, List.take_append_drop]

theorem mono (h : WritesLines ls T) (hTT : ∀ ts, T ts → T' ts) : WritesLines ls T' := by
  obtain ⟨Ts, hw, hT⟩ := h
  exact ⟨Ts, hw, fun tss htss => hTT _ (hT tss htss)⟩

/-- **Lines in braces** behind words that end in the opening brace. -/
theorem block (h : WritesLines ls T) (hne : ls ≠ []) (s : String) (ss : List String)
    {head : Tokens} {cs : List Char} (hs : (s :: ss).flatMap String.toList = cs ++ ['\x7b'])
    (hhead : Spells (· == '\x7b') head cs) :
    Writes (cbox indent ((s :: ss).flatMap Layout.word ++ (hardbreak 0 ++ innerLines ls)) ++
      Layout.word "\x7d") (IsLineOf fun ts => ∃ us, T us ∧ ts = head ++ [.group .brace us]) := by
  obtain ⟨Ts, hw, hT⟩ := h
  refine (Writes.block hw hne s ss "\x7d").mono fun text ⟨b, j, hb, htext⟩ => ?_
  obtain ⟨tss, htss, hspells, -⟩ := spells_of_blockText hb
  refine ⟨_, ⟨tss.flatten, hT tss htss, rfl⟩, ?_⟩
  have hbraces : Spells (· == '\n') _ _ := spells_braces j hspells
  have := hhead.append hbraces ⟨'\x7b', rfl, rfl⟩
  rw [htext, hs]
  simpa using this

/-- **A document of lines** in a broken box is written as the text of the tokens of all of them. -/
theorem document (h : WritesLines ls T) (hne : ls ≠ []) {c : Cursor} (hv : c.Valid)
    (hb : c.IsBroken) (ts : Doc) :
    ∃ us cs, fill c (lineList ls ++ ts) =
      Layout.blanks c.pending ++ (cs ++ '\n' :: fill (c.onNextLine 0) ts) ∧
      T us ∧ Spells (· == '\n') us cs := by
  obtain ⟨Ts, hw, hT⟩ := h
  generalize hPs : Ts.map IsLineOf = Ps at hw
  obtain _ | ⟨hl, hls⟩ := hw
  · exact absurd rfl hne
  · obtain ⟨T₁, Ts, rfl, rfl, rfl⟩ := List.map_eq_cons_iff.1 hPs
    obtain ⟨a, b, hf, ⟨us, hus, hline⟩, hblock⟩ := fill_lineList hl hls hv hb ts
    obtain ⟨tss, htss, hspells, hhead⟩ := spells_of_blockText hblock
    refine ⟨us ++ tss.flatten, a ++ b, ?_, hT (us :: tss) (.cons hus htss),
      hline.append_lines hspells hhead⟩
    rw [hf]
    simp

end WritesLines

end TypeFoundry.Source
