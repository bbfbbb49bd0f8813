import Mathlib.Data.List.Forall2
import TypeFoundry.Layout.Fill

/-!
# What a document writes

`Writes d P`: from every valid cursor, and whatever follows, the document `d` writes the pending
blanks and then a text of `P`, and leaves its box as it found it. A consistent box around two breaks
writes its content on one line or on lines of its own (`Writes.box`, `Writes.enclosed`). A box with a
line end inside is always broken, since a line is narrower than what a line end counts for; so the
lines of a block stand one below the other (`Writes.block`), and those of a whole document too
(`fill_lineList`).
-/

set_option autoImplicit false

namespace TypeFoundry.Layout

/-- Whether all breaks of the box end their lines or none does. -/
def Frame.isUniform : Frame → Bool
  | .fits => true
  | .broken _ isConsistent => isConsistent

/-- Lines start at or behind the margin on the left, no line is wider than the page, and the
innermost box, if there is one, is uniform. -/
structure Cursor.Valid (c : Cursor) : Prop where
  start : 0 ≤ c.start
  room : c.room ≤ margin
  uniform : ∃ f fs, c.frames = f :: fs ∧ f.isUniform = true

/-- The innermost open box ends a line at each of its breaks. -/
def Cursor.IsBroken (c : Cursor) : Prop := ∃ outer fs, c.frames = .broken outer true :: fs

/-- From every valid cursor the document writes the pending blanks and a text of `P`, and leaves its
box as it found it. -/
def Writes (d : Doc) (P : List Char → Prop) : Prop :=
  ∀ (c : Cursor) (ts : Doc), c.Valid → ∃ cs c', fill c (d ++ ts) = blanks c.pending ++ (cs ++ fill c' ts) ∧
    P cs ∧ c'.start = c.start ∧ c'.frames = c.frames ∧ c'.pending = 0 ∧ c'.Valid

@[simp] theorem blanks_zero : blanks 0 = [] := rfl

namespace Writes

variable {d e : Doc} {P Q : List Char → Prop}

theorem mono (h : Writes d P) (hPQ : ∀ cs, P cs → Q cs) : Writes d Q := by
  intro c ts hc
  obtain ⟨cs, c', hf, hP, hrest⟩ := h c ts hc
  exact ⟨cs, c', hf, hPQ cs hP, hrest⟩

theorem word (s : String) : Writes (word s) (· = s.toList) := by
  intro c ts hc
  refine ⟨s.toList, c.afterText s, by simp [Layout.word, fill], rfl, rfl, rfl, rfl, hc.start, ?_,
    hc.uniform⟩
  have := hc.room
  simp only [Cursor.afterText]
  omega

theorem append (h : Writes d P) (h' : Writes e Q) :
    Writes (d ++ e) fun cs => ∃ a b, P a ∧ Q b ∧ cs = a ++ b := by
  intro c ts hc
  obtain ⟨a, c₁, hf, hP, hs₁, hfr₁, hp₁, hv₁⟩ := h c (e ++ ts) hc
  obtain ⟨b, c₂, hf', hQ, hs₂, hfr₂, hp₂, hv₂⟩ := h' c₁ ts hv₁
  refine ⟨a ++ b, c₂, ?_, ⟨a, b, hP, hQ, rfl⟩, hs₂.trans hs₁, hfr₂.trans hfr₁, hp₂, hv₂⟩
  rw [List.append_assoc, hf, hf', hp₁, blanks_zero, List.nil_append, List.append_assoc]

theorem words (s : String) (ss : List String) :
    Writes ((s :: ss).flatMap Layout.word) (· = (s :: ss).flatMap String.toList) := by
  induction ss generalizing s with
  | nil => simpa using word s
  | cons t ss ih =>
    rw [List.flatMap_cons]
    exact ((word s).append (ih t)).mono fun cs ⟨a, b, ha, hb, h⟩ => by
      rw [h, ha, hb, List.flatMap_cons (x := s)]

end Writes

/-! ## Lines -/

/-- The cursor at the start of the next line of its box, which is `offset` deeper. -/
def Cursor.onNextLine (c : Cursor) (offset : Int) : Cursor :=
  ⟨c.start, max (margin - (c.start + offset)) minRoom, (c.start + offset).toNat, c.frames⟩

theorem Cursor.Valid.onNextLine {c : Cursor} (h : c.Valid) {offset : Int}
    (ho : 0 ≤ c.start + offset) : (c.onNextLine offset).Valid := by
  refine ⟨h.start, ?_, h.uniform⟩
  simp only [Cursor.onNextLine, margin, minRoom]
  omega

theorem fill_break {c : Cursor} (hb : c.IsBroken) (offset : Int) (blank : Nat) (ts : Doc) :
    fill c (breakWith offset blank ++ ts) = '\n' :: fill (c.onNextLine offset) ts := by
  obtain ⟨outer, fs, hf⟩ := hb
  simp [breakWith, fill, Cursor.goesOn, hf, Cursor.lineEnd, Cursor.nextLine, Cursor.onNextLine]

theorem reach_word (level : Nat) (s : String) (ts : Doc) :
    reach level (word s ++ ts) = s.utf8ByteSize + reach level ts := rfl

theorem reach_hardbreak (level : Nat) (offset : Int) (ts : Doc) :
    infinite ≤ reach (level + 1) (hardbreak offset ++ ts) := by
  simp [hardbreak, breakWith, reach]

theorem reach_words (level : Nat) (ss : List String) (ts : Doc) :
    reach level ts ≤ reach level (ss.flatMap word ++ ts) := by
  induction ss with
  | nil => exact Nat.le_refl _
  | cons s ss ih =>
    rw [List.flatMap_cons, List.append_assoc, reach_word]
    omega

/-- **A box with a line end** behind its first words is broken. -/
theorem enter_of_hardbreak {c : Cursor} (hc : c.room ≤ margin) (offset : Int) (isConsistent : Bool)
    (ss : List String) (k : Int) (ts : Doc) :
    c.enter offset isConsistent (ss.flatMap word ++ (hardbreak k ++ ts)) =
      { c with start := c.start + offset, frames := .broken c.start isConsistent :: c.frames } := by
  have h₁ := reach_words 1 ss (hardbreak k ++ ts)
  have h₂ := reach_hardbreak 0 k ts
  simp only [infinite, margin, Nat.zero_add] at h₂ hc
  simp only [Cursor.enter]
  rw [if_pos (by omega)]

/-! ## Boxes around one piece -/

/-- The last break of a box: the next line starts where the box stands, and `before` is written in
front of the line end. -/
def lastBreak (before : String) : Doc := [.break ⟨-indent, 0, "", before, "", false⟩]

/-- A text of `P` between two others: on one line with them, or on lines of its own with `before`
behind it. -/
inductive Boxed (opener before closer : String) (P : List Char → Prop) : List Char → Prop
  | tight {a : List Char} : P a → Boxed opener before closer P (opener.toList ++ (a ++ closer.toList))
  | wide {a : List Char} (i j : Nat) : P a → Boxed opener before closer P
      (opener.toList ++ '\n' :: (blanks i ++ (a ++ (before.toList ++ '\n' :: (blanks j ++ closer.toList)))))

theorem fill_lastBreak {c : Cursor} (hb : c.IsBroken) (hp : c.pending = 0) (before : String)
    (ts : Doc) :
    fill c (lastBreak before ++ ts) =
      before.toList ++ '\n' :: fill (c.onNextLine (-indent)) ts := by
  obtain ⟨outer, fs, hf⟩ := hb
  by_cases he : before = ""
  · simp [lastBreak, fill, Cursor.goesOn, hf, Cursor.lineEnd, Cursor.nextLine, Cursor.onNextLine, he]
  · simp [lastBreak, fill, Cursor.goesOn, hf, Cursor.lineEnd, Cursor.nextLine, Cursor.onNextLine,
      he, hp]

/-- **A consistent box around a piece** writes it on one line or on lines of its own. -/
theorem Writes.box {d : Doc} {P : List Char → Prop} (h : Writes d P)
    (opener before closer : String) :
    Writes (Layout.word opener ++ cbox indent (zerobreak 0 ++ (d ++ lastBreak before)) ++
      Layout.word closer) (Boxed opener before closer P) := by
  intro c ts hc
  obtain ⟨_, c₀, hf₀, rfl, hs₀, hfr₀, hp₀, hv₀⟩ := Writes.word opener c
    (cbox indent (zerobreak 0 ++ (d ++ lastBreak before)) ++ (Layout.word closer ++ ts)) hc
  have hdoc : Layout.word opener ++ cbox indent (zerobreak 0 ++ (d ++ lastBreak before)) ++
      Layout.word closer ++ ts = Layout.word opener ++
      (cbox indent (zerobreak 0 ++ (d ++ lastBreak before)) ++ (Layout.word closer ++ ts)) := by
    simp
  rw [hdoc, hf₀]
  -- behind the box the closer is written
  have hclose : ∀ c₁ : Cursor, c₁.Valid → c₁.start = c.start → c₁.frames = c.frames →
      ∃ c', fill c₁ (Layout.word closer ++ ts) =
        blanks c₁.pending ++ (closer.toList ++ fill c' ts) ∧
        c'.start = c.start ∧ c'.frames = c.frames ∧ c'.pending = 0 ∧ c'.Valid := by
    intro c₁ hv hs hfr
    obtain ⟨_, c', hf', rfl, hs', hfr', hp', hv'⟩ := Writes.word closer c₁ ts hv
    exact ⟨c', hf', hs'.trans hs, hfr'.trans hfr, hp', hv'⟩
  simp only [cbox, List.cons_append, List.nil_append, List.append_assoc, fill]
  generalize hrest : zerobreak 0 ++ (d ++ (lastBreak before ++ Token.closing ::
    (Layout.word closer ++ ts))) = inside
  by_cases hfit : reach 1 inside > c₀.room
  · -- the box is broken: a line end behind the opener and one behind the piece
    let c₁ : Cursor := { c₀ with start := c₀.start + indent, frames := .broken c₀.start true :: c₀.frames }
    have hb₁ : c₁.IsBroken := ⟨_, _, rfl⟩
    have hv₁ : c₁.Valid := ⟨by have := hv₀.start; simp only [c₁, indent]; omega, hv₀.room, _, _, rfl, rfl⟩
    have henter : c₀.enter indent true inside = c₁ := by simp only [Cursor.enter, if_pos hfit, c₁]
    obtain ⟨a, c₂, hf₂, hP, hs₂, hfr₂, hp₂, hv₂⟩ := h (c₁.onNextLine 0)
      (lastBreak before ++ Token.closing :: (Layout.word closer ++ ts))
      (hv₁.onNextLine (by have := hv₁.start; omega))
    have hb₂ : c₂.IsBroken := ⟨_, _, hfr₂⟩
    have hstart : c₂.start = c₀.start + indent := hs₂
    let c₃ := (c₂.onNextLine (-indent)).exit
    have hframes : (c₂.onNextLine (-indent)).frames = .broken c₀.start true :: c₀.frames := hfr₂
    have hc₃ : c₃.start = c₀.start ∧ c₃.frames = c₀.frames ∧ c₃.Valid := by
      have hv₃ : (c₂.onNextLine (-indent)).Valid :=
        hv₂.onNextLine (by rw [hstart]; have := hv₀.start; simp only [indent]; omega)
      simp only [c₃, Cursor.exit, hframes]
      exact ⟨trivial, trivial, hv₀.start, hv₃.room, hv₀.uniform⟩
    obtain ⟨c', hf', hrest'⟩ := hclose c₃ hc₃.2.2 (hc₃.1.trans hs₀) (hc₃.2.1.trans hfr₀)
    refine ⟨_, c', ?_, .wide (c₁.onNextLine 0).pending c₃.pending hP, hrest'⟩
    rw [henter, ← hrest]
    simp only [zerobreak, fill_break hb₁, hf₂, fill_lastBreak hb₂ hp₂, fill]
    rw [show (c₂.onNextLine (-indent)).exit = c₃ from rfl, hf']
    simp
  · -- the box stands on one line: its breaks write nothing
    let c₁ : Cursor := { c₀ with frames := .fits :: c₀.frames }
    have henter : c₀.enter indent true inside = c₁ := by simp only [Cursor.enter, if_neg hfit, c₁]
    have hv₁ : c₁.Valid := ⟨hv₀.start, hv₀.room, _, _, rfl, rfl⟩
    have hflat : ∀ (c₂ : Cursor) (fs : List Frame) (b : Break) (ts : Doc), c₂.frames = .fits :: fs →
        b.kept = "" → b.blank = 0 → fill c₂ (.break b :: ts) = fill c₂ ts := by
      intro c₂ fs b ts hf hk hb
      obtain ⟨start, room, pending, frames⟩ := c₂
      simp only at hf
      simp [fill, Cursor.goesOn, hf, hk, Cursor.afterBlank, hb]
    obtain ⟨a, c₂, hf₂, hP, hs₂, hfr₂, hp₂, hv₂⟩ := h c₁
      (lastBreak before ++ Token.closing :: (Layout.word closer ++ ts)) hv₁
    have hc₃ : c₂.exit.start = c₀.start ∧ c₂.exit.frames = c₀.frames ∧ c₂.exit.pending = 0 ∧
        c₂.exit.Valid := by
      have hfr : c₂.frames = .fits :: c₀.frames := hfr₂
      simp only [Cursor.exit, hfr]
      exact ⟨hs₂, trivial, hp₂, hv₂.start, hv₂.room, hv₀.uniform⟩
    obtain ⟨c', hf', hrest'⟩ := hclose c₂.exit hc₃.2.2.2 (hc₃.1.trans hs₀) (hc₃.2.1.trans hfr₀)
    refine ⟨_, c', ?_, .tight hP, hrest'⟩
    rw [henter, ← hrest]
    simp only [zerobreak, breakWith, List.cons_append, List.nil_append]
    rw [hflat c₁ _ _ _ rfl rfl rfl, hf₂]
    simp only [lastBreak, List.cons_append, List.nil_append]
    rw [hflat c₂ _ _ _ hfr₂ rfl rfl, fill, hf', hc₃.2.2.1]
    simp [c₁, hp₀]

/-- One document between delimiters, on lines of its own with a comma behind it. -/
theorem Writes.enclosed {d : Doc} {P : List Char → Prop} (h : Writes d P)
    (opener closer : String) :
    Writes (Layout.enclosed opener closer indent [d]) (Boxed opener "," closer P) :=
  h.box opener "," closer

/-- Something behind the words and a break that is a blank on one line. -/
theorem Writes.spaced {d : Doc} {P : List Char → Prop} (h : Writes d P) (s : String) :
    Writes (Layout.word s ++ (space 0 ++ d)) fun cs =>
      ∃ gap a, (∀ c ∈ gap, c = ' ' ∨ c = '\n') ∧ P a ∧ cs = s.toList ++ (gap ++ a) := by
  intro c ts hc
  obtain ⟨_, c₁, hf₁, rfl, hs₁, hfr₁, hp₁, hv₁⟩ := Writes.word s c (space 0 ++ (d ++ ts)) hc
  obtain ⟨f, fs, hf, huniform⟩ := hv₁.uniform
  have hblanks : ∀ n, ∀ c ∈ blanks n, c = ' ' ∨ c = '\n' := fun n c hc => .inl (List.eq_of_mem_replicate hc)
  have hdoc : Layout.word s ++ (space 0 ++ d) ++ ts = Layout.word s ++ (space 0 ++ (d ++ ts)) := by
    simp
  rw [hdoc, hf₁]
  cases f with
  | fits =>
    let c₂ := c₁.afterBlank ⟨0, 1, "", "", "", false⟩
    have hv₂ : c₂.Valid := by
      refine ⟨hv₁.start, ?_, hv₁.uniform⟩
      have := hv₁.room
      simp only [c₂, Cursor.afterBlank]
      omega
    obtain ⟨a, c', hf', hP, hs', hfr', hrest⟩ := h c₂ ts hv₂
    refine ⟨_, c', ?_, ⟨blanks c₂.pending, a, hblanks _, hP, rfl⟩, hs'.trans hs₁, hfr'.trans hfr₁,
      hrest⟩
    have hbreak : fill c₁ (space 0 ++ (d ++ ts)) = fill c₂ (d ++ ts) := by
      simp [space, breakWith, fill, Cursor.goesOn, hf, c₂]
    rw [hbreak, hf']
    simp
  | broken outer isConsistent =>
    have hb : c₁.IsBroken := ⟨outer, fs, by rw [hf, show isConsistent = true from huniform]⟩
    obtain ⟨a, c', hf', hP, hs', hfr', hrest⟩ := h (c₁.onNextLine 0) ts
      (hv₁.onNextLine (by have := hv₁.start; omega))
    refine ⟨_, c', ?_, ⟨'\n' :: blanks (c₁.onNextLine 0).pending, a, ?_, hP, rfl⟩, hs'.trans hs₁,
      hfr'.trans hfr₁, hrest⟩
    · rw [space, fill_break hb, hf']
      simp
    · intro c hc
      obtain rfl | hc := List.mem_cons.1 hc
      · exact .inr rfl
      · exact hblanks _ c hc

/-! ## Blocks of lines -/

/-- The texts of lines, each behind a line end and the blanks that it starts with. -/
inductive BlockText : List (List Char → Prop) → List Char → Prop
  | nil : BlockText [] []
  | cons {P : List Char → Prop} {Ps : List (List Char → Prop)} {a b : List Char} (i : Nat) :
      P a → BlockText Ps b → BlockText (P :: Ps) ('\n' :: (blanks i ++ (a ++ b)))

/-- Each line writes a text of its predicate. -/
abbrev WritesAll : List Line → List (List Char → Prop) → Prop :=
  List.Forall₂ fun l P => Writes l.content P

theorem onNextLine_congr {c c' : Cursor} (hs : c'.start = c.start) (hf : c'.frames = c.frames)
    (offset : Int) : c'.onNextLine offset = c.onNextLine offset := by
  simp [Cursor.onNextLine, hs, hf]

theorem fill_innerLines {ls : List Line} {Ps : List (List Char → Prop)} (h : WritesAll ls Ps)
    (hne : ls ≠ []) {c : Cursor} (hv : c.Valid) (hb : c.IsBroken) (blank : Nat) (ts : Doc) :
    ∃ b, fill c (breakWith 0 blank ++ (innerLines ls ++ ts)) =
      b ++ '\n' :: fill (c.onNextLine (-indent)) ts ∧ BlockText Ps b := by
  induction h generalizing c blank with
  | nil => exact absurd rfl hne
  | @cons l P ls Ps hl hls ih =>
    have hv' : (c.onNextLine 0).Valid := hv.onNextLine (by have := hv.start; omega)
    rw [fill_break hb]
    cases hls with
    | nil =>
      obtain ⟨a, c', hf, hP, hs, hfr, hp, hv'⟩ := hl (c.onNextLine 0)
        (breakWith (-indent) l.blank ++ ts) hv'
      have hb' : c'.IsBroken := by obtain ⟨o, fs, ho⟩ := hb; exact ⟨o, fs, hfr.trans ho⟩
      refine ⟨_, ?_, .cons (c.onNextLine 0).pending hP .nil⟩
      rw [innerLines, List.append_assoc, hf, fill_break hb', onNextLine_congr hs hfr]
      simp [Cursor.onNextLine]
    | @cons l' P' ls Ps hl' hls =>
      obtain ⟨a, c', hf, hP, hs, hfr, hp, hv'⟩ := hl (c.onNextLine 0)
        (breakWith 0 l.blank ++ (innerLines (l' :: ls) ++ ts)) hv'
      have hb' : c'.IsBroken := by obtain ⟨o, fs, ho⟩ := hb; exact ⟨o, fs, hfr.trans ho⟩
      obtain ⟨b, hf', hB⟩ := ih (by simp) hv' hb' l.blank
      refine ⟨_, ?_, .cons (c.onNextLine 0).pending hP hB⟩
      rw [innerLines, List.append_assoc, List.append_assoc, hf, hf',
        onNextLine_congr hs hfr]
      · simp [Cursor.onNextLine]
      · simp

/-- **A block**: the words in front of it, the lines one below the other, and the closer on a line
of its own. -/
theorem Writes.block {ls : List Line} {Ps : List (List Char → Prop)} (h : WritesAll ls Ps)
    (hne : ls ≠ []) (s : String) (ss : List String) (closer : String) :
    Writes (cbox indent ((s :: ss).flatMap Layout.word ++ (hardbreak 0 ++ innerLines ls)) ++
      Layout.word closer) fun cs => ∃ b j, BlockText Ps b ∧
        cs = (s :: ss).flatMap String.toList ++ (b ++ '\n' :: (blanks j ++ closer.toList)) := by
  intro c ts hc
  let c₁ : Cursor := { c with start := c.start + indent, frames := .broken c.start true :: c.frames }
  have hv₁ : c₁.Valid := ⟨by have := hc.start; simp only [c₁, indent]; omega, hc.room, _, _, rfl, rfl⟩
  obtain ⟨_, c₂, hf₂, rfl, hs₂, hfr₂, hp₂, hv₂⟩ := Writes.words s ss c₁
    (hardbreak 0 ++ (innerLines ls ++ (Token.closing :: (Layout.word closer ++ ts)))) hv₁
  have hb₂ : c₂.IsBroken := ⟨_, _, hfr₂⟩
  obtain ⟨b, hf₃, hB⟩ := fill_innerLines h hne hv₂ hb₂ infinite
    (Token.closing :: (Layout.word closer ++ ts))
  let c₃ := (c₂.onNextLine (-indent)).exit
  have hc₃ : c₃.start = c.start ∧ c₃.frames = c.frames ∧ c₃.Valid := by
    have hfr : (c₂.onNextLine (-indent)).frames = .broken c.start true :: c.frames := hfr₂
    have hstart : c₂.start = c.start + indent := hs₂
    have hv₃ : (c₂.onNextLine (-indent)).Valid :=
      hv₂.onNextLine (by rw [hstart]; have := hc.start; simp only [indent]; omega)
    simp only [c₃, Cursor.exit, hfr]
    exact ⟨trivial, trivial, hc.start, hv₃.room, hc.uniform⟩
  obtain ⟨_, c', hf', rfl, hs', hfr', hp', hv'⟩ := Writes.word closer c₃ ts hc₃.2.2
  refine ⟨_, c', ?_, ⟨b, c₃.pending, hB, rfl⟩, hs'.trans hc₃.1, hfr'.trans hc₃.2.1, hp', hv'⟩
  have henter := enter_of_hardbreak hc.room indent true (s :: ss) 0
    (innerLines ls ++ (Token.closing :: (Layout.word closer ++ ts)))
  simp only [cbox, List.cons_append, List.nil_append, List.append_assoc, fill]
  rw [henter, show hardbreak 0 = breakWith 0 infinite from rfl] at *
  rw [hf₂, hf₃, fill, show (c₂.onNextLine (-indent)).exit = c₃ from rfl, hf']

/-- **The lines of a document** one below the other. -/
theorem fill_lineList {l : Line} {ls : List Line} {P : List Char → Prop}
    {Ps : List (List Char → Prop)} (hl : Writes l.content P) (h : WritesAll ls Ps) {c : Cursor}
    (hv : c.Valid) (hb : c.IsBroken) (ts : Doc) :
    ∃ a b, fill c (lineList (l :: ls) ++ ts) =
      blanks c.pending ++ (a ++ (b ++ '\n' :: fill (c.onNextLine 0) ts)) ∧ P a ∧ BlockText Ps b := by
  induction h generalizing l P c with
  | nil =>
    obtain ⟨a, c', hf, hP, hs, hfr, hp, hv'⟩ := hl c (breakWith 0 l.blank ++ ts) hv
    have hb' : c'.IsBroken := by obtain ⟨o, fs, ho⟩ := hb; exact ⟨o, fs, hfr.trans ho⟩
    refine ⟨a, [], ?_, hP, .nil⟩
    simp only [lineList, List.flatMap_cons, List.flatMap_nil, List.append_nil, List.append_assoc]
    rw [hf, fill_break hb', onNextLine_congr hs hfr]
    simp
  | @cons l' P' ls Ps hl' hls ih =>
    obtain ⟨a, c', hf, hP, hs, hfr, hp, hv'⟩ := hl c
      (breakWith 0 l.blank ++ (lineList (l' :: ls) ++ ts)) hv
    have hb' : c'.IsBroken := by obtain ⟨o, fs, ho⟩ := hb; exact ⟨o, fs, hfr.trans ho⟩
    have hv'' : (c.onNextLine 0).Valid := hv.onNextLine (by have := hv.start; omega)
    obtain ⟨a', b, hf', hP', hB⟩ := ih hl' hv'' hb
    refine ⟨a, _, ?_, hP, .cons (c.onNextLine 0).pending hP' hB⟩
    have hdoc : lineList (l :: l' :: ls) ++ ts =
        l.content ++ (breakWith 0 l.blank ++ (lineList (l' :: ls) ++ ts)) := by
      simp [lineList]
    rw [hdoc, hf, fill_break hb', onNextLine_congr (c := c) hs hfr, hf']
    simp [Cursor.onNextLine]

end TypeFoundry.Layout
