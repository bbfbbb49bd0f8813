import Mathlib.Data.List.Forall2
import TypeFoundry.Compiler.Diagnostics
import TypeFoundry.Proofs.Splitting

/-!
# Messages of the toolchain

What the toolchain reports, line by line. `ToolMessage.IsWritten` says which JSON values are messages,
`Reports` which lines report an error and at which place, and `Collects` what a list of lines comes to: one
diagnostic for each line that reports an error, in order, and nothing for any other line.
`reportedErrors_collects` says that this is what is read off an output, and `failureDiagnostics_eq` what a
failed compilation leaves. A line is read alike whatever stands around it, bytes that are no text included
(`reportedErrors_append`).
-/

set_option autoImplicit false

namespace TypeFoundry

/-! ## Records -/

namespace Json

/-- The record has the value under the name: in a member of that name, or at the place of the name. -/
inductive Has (names : List String) (k : String) : Json → Json → Prop where
  | member {members : List (Option String × Json)} {v : Json} :
    (some k, v) ∈ members → Has names k (.object members) v
  | item {items : List Json} {v : Json} {i : Nat} :
    names[i]? = some k → items[i]? = some v → Has names k (.array items) v

/-- The value is a record with these names: an object whose names are texts, where these are not repeated,
or a list with one value at most for each. -/
inductive IsRecord (names : List String) : Json → Prop where
  | object {members : List (Option String × Json)} : (∀ m ∈ members, m.1 ≠ none) →
    (∀ k ∈ names, (members.filter fun m => m.1 == some k).length ≤ 1) → IsRecord names (.object members)
  | array {items : List Json} : items.length ≤ names.length → IsRecord names (.array items)

/-- What occurs once at most is found. -/
theorem find?_eq_some_of_mem {α : Type} {p : α → Bool} {xs : List α} {x : α}
    (hone : (xs.filter p).length ≤ 1) (hmem : x ∈ xs) (hx : p x = true) : xs.find? p = some x := by
  have hfilter : x ∈ xs.filter p := List.mem_filter.2 ⟨hmem, hx⟩
  rw [← List.head?_filter]
  cases hxs : xs.filter p with
  | nil => simp [hxs] at hfilter
  | cons y ys =>
    rw [hxs] at hone hfilter
    obtain rfl : ys = [] := List.length_eq_zero_iff.1 (by simpa using hone)
    rw [List.mem_singleton.1 hfilter]
    rfl

section

variable {names : List String} {j : Json} {vs : List (Option Json)}

/-- **The values of a record** are those that it has under the names. -/
theorem known?_eq_some (hnames : names.Nodup) (h : j.known? names false = some vs) :
    j.IsRecord names ∧ vs.length = names.length ∧
      ∀ (i : Nat) (k : String), names[i]? = some k → ∀ v, vs[i]? = some (some v) ↔ j.Has names k v := by
  cases j with
  | object members =>
    simp only [known?, Bool.not_false, Bool.true_or, Option.ite_none_right_eq_some, Bool.and_eq_true,
      List.all_eq_true, decide_eq_true_eq, Option.some.injEq] at h
    obtain ⟨⟨hkeys, hone⟩, rfl⟩ := h
    refine ⟨.object (fun m hm => ?_) hone, by simp, fun i k hk v => ?_⟩
    · intro hnone
      simpa [hnone] using hkeys m hm
    · rw [List.getElem?_map, hk, Option.map_some, Option.some.injEq, Option.map_eq_some_iff]
      constructor
      · rintro ⟨m, hm, rfl⟩
        have hkey := List.find?_some hm
        refine .member ?_
        rw [← eq_of_beq hkey]
        exact List.mem_of_find?_eq_some hm
      · rintro ⟨hmem⟩
        exact ⟨(some k, v), find?_eq_some_of_mem (hone k (List.mem_of_getElem? hk)) hmem (by simp), rfl⟩
  | array items =>
    simp only [known?, Option.ite_none_right_eq_some, Option.some.injEq] at h
    obtain ⟨hlength, rfl⟩ := h
    refine ⟨.array hlength, by simp; omega, fun i k hk v => ?_⟩
    have hbound := (List.getElem?_eq_some_iff.1 hk).1
    have hitem : (items.map some ++ List.replicate (names.length - items.length) none)[i]? =
        some (some v) ↔ items[i]? = some v := by
      by_cases hi : i < items.length
      · simp [List.getElem?_append_left, hi]
      · simp [List.getElem?_append_right, List.getElem?_replicate, Nat.not_lt.1 hi]
    rw [hitem]
    constructor
    · exact .item hk
    · intro hhas
      cases hhas with
      | item hk' hv =>
        obtain rfl := (List.getElem?_inj hbound hnames).1 (hk.trans hk'.symm)
        exact hv
  | _ => cases h

theorem isSome_known? (h : j.IsRecord names) : ∃ vs, j.known? names false = some vs := by
  cases h with
  | object hkeys hone =>
    refine ⟨_, if_pos ?_⟩
    simp only [Bool.and_eq_true, List.all_eq_true, decide_eq_true_eq]
    refine ⟨fun m hm => ?_, hone⟩
    obtain ⟨k, hk⟩ := Option.ne_none_iff_exists'.1 (hkeys m hm)
    simp [hk]
  | array hlength => exact ⟨_, if_pos hlength⟩

/-- The values of a record with four names. -/
theorem known?_four {a b c d : String} {x y z t : Option Json} (hnames : [a, b, c, d].Nodup)
    (h : j.known? [a, b, c, d] false = some [x, y, z, t]) : j.IsRecord [a, b, c, d] ∧
      (∀ v, x = some v ↔ j.Has [a, b, c, d] a v) ∧ (∀ v, y = some v ↔ j.Has [a, b, c, d] b v) ∧
      (∀ v, z = some v ↔ j.Has [a, b, c, d] c v) ∧ ∀ v, t = some v ↔ j.Has [a, b, c, d] d v := by
  obtain ⟨hrecord, -, hvalues⟩ := known?_eq_some hnames h
  refine ⟨hrecord, ?_, ?_, ?_, ?_⟩
  · simpa using hvalues 0 a rfl
  · simpa using hvalues 1 b rfl
  · simpa using hvalues 2 c rfl
  · simpa using hvalues 3 d rfl

theorem exists_known?_four {a b c d : String} (hnames : [a, b, c, d].Nodup)
    (h : j.IsRecord [a, b, c, d]) : ∃ x y z t, j.known? [a, b, c, d] false = some [x, y, z, t] := by
  obtain ⟨vs, hvs⟩ := isSome_known? h
  obtain ⟨-, hlength, -⟩ := known?_eq_some hnames hvs
  obtain ⟨x, y, z, t, rfl⟩ := List.length_eq_four.1 hlength
  exact ⟨x, y, z, t, hvs⟩

end

/-! ### Values of one kind -/

theorem text?_eq_some {j : Json} {s : String} : j.text? = some s ↔ j = .text s := by
  cases j <;> simp [text?, text]

theorem bool?_eq_some {j : Json} {b : Bool} : j.bool? = some b ↔ j = .bool b := by
  cases j <;> simp [bool?]

theorem natural?_eq_some {j : Json} {bound n : Nat} :
    j.natural? bound = some n ↔ j = .natural n ∧ n < bound := by
  cases j <;> simp [natural?]
  constructor
  · rintro ⟨h, rfl⟩
    exact ⟨rfl, h⟩
  · rintro ⟨rfl, h⟩
    exact ⟨h, rfl⟩

theorem optional?_eq_some {j : Json} {s : Option String} :
    j.optional? = some s ↔ (j = .null ∧ s = none) ∨ ∃ t, j = .text t ∧ s = some t := by
  cases j with
  | null => simp [optional?, text, eq_comm]
  | string t => cases t <;> simp [optional?, text, eq_comm]
  | _ => simp [optional?, text]

/-- A value that may be missing or null. -/
theorem optional?_getD_eq_some {names : List String} {k : String} {j : Json} {x : Option Json}
    {s : Option String} (hx : ∀ v, x = some v ↔ j.Has names k v) :
    (x.getD .null).optional? = some s ↔
      (s = none ∧ ∀ v, j.Has names k v → v = .null) ∨ ∃ t, s = some t ∧ j.Has names k (.text t) := by
  simp only [optional?_eq_some, ← hx]
  cases x <;> simp [and_comm, text]

theorem list?_eq_some {α : Type} {item : Json → Option α} {j : Json} {xs : List α} :
    j.list? item = some xs ↔
      ∃ items, j = .array items ∧ List.Forall₂ (fun i x => item i = some x) items xs := by
  have hmap : ∀ (items : List Json) (xs : List α),
      items.mapM item = some xs ↔ List.Forall₂ (fun i x => item i = some x) items xs := by
    intro items
    induction items with
    | nil => intro xs; cases xs <;> simp
    | cons i items ih =>
      intro xs
      rw [List.mapM_cons]
      cases xs with
      | nil => simp [Option.bind_eq_some_iff]
      | cons x xs => simp [Option.bind_eq_some_iff, ih]
  cases j with
  | array items => simp [list?, hmap]
  | _ => simp [list?]

end Json

/-! ## Messages -/

namespace Span

/-- What a place is written with. -/
abbrev names : List String := ["file_name", "line_start", "column_start", "is_primary"]

/-- The value is the place. -/
structure IsWritten (s : Span) (j : Json) : Prop where
  record : j.IsRecord names
  file : j.Has names "file_name" (.text s.file)
  line : j.Has names "line_start" (.natural s.line)
  column : j.Has names "column_start" (.natural s.column)
  isPrimary : j.Has names "is_primary" (.bool s.isPrimary)
  bounded : s.line < Text.wordBound ∧ s.column < Text.wordBound

theorem ofJson?_eq_some {j : Json} {s : Span} : Span.ofJson? j = some s ↔ s.IsWritten j := by
  have hnames : names.Nodup := by decide
  constructor
  · intro h
    unfold Span.ofJson? at h
    split at h
    · rename_i file line column isPrimary hknown
      obtain ⟨hrecord, hfile, hline, hcolumn, hprimary⟩ := Json.known?_four hnames hknown
      simp only [Option.bind_eq_bind, Option.bind_eq_some_iff, Option.pure_def, Option.some.injEq,
        Json.text?_eq_some, Json.natural?_eq_some, Json.bool?_eq_some] at h
      obtain ⟨f, rfl, l, ⟨rfl, hl⟩, c, ⟨rfl, hc⟩, p, rfl, rfl⟩ := h
      exact ⟨hrecord, (hfile _).1 rfl, (hline _).1 rfl, (hcolumn _).1 rfl, (hprimary _).1 rfl, hl, hc⟩
    · cases h
  · intro h
    obtain ⟨x, y, z, t, hknown⟩ := Json.exists_known?_four hnames h.record
    obtain ⟨-, hfile, hline, hcolumn, hprimary⟩ := Json.known?_four hnames hknown
    obtain rfl := (hfile _).2 h.file
    obtain rfl := (hline _).2 h.line
    obtain rfl := (hcolumn _).2 h.column
    obtain rfl := (hprimary _).2 h.isPrimary
    rw [Span.ofJson?, hknown]
    simp [Json.text?, Json.text, Json.natural?, Json.bool?, h.bounded]

end Span

namespace ToolMessage

/-- What a message is written with. -/
abbrev names : List String := ["$message_type", "message", "level", "spans"]

/-- The value is the message. The type may be missing or null, and the places may be missing. -/
structure IsWritten (m : ToolMessage) (j : Json) : Prop where
  record : j.IsRecord names
  type : (m.type = none ∧ ∀ v, j.Has names "$message_type" v → v = .null) ∨
    ∃ t, m.type = some t ∧ j.Has names "$message_type" (.text t)
  message : j.Has names "message" (.text m.message)
  level : j.Has names "level" (.text m.level)
  spans : (m.spans = [] ∧ ∀ v, ¬ j.Has names "spans" v) ∨
    ∃ items, j.Has names "spans" (.array items) ∧ List.Forall₂ (fun i s => s.IsWritten i) items m.spans

/-- The messages are read off the values that they are written as. -/
theorem ofJson?_eq_some {j : Json} {m : ToolMessage} : ToolMessage.ofJson? j = some m ↔ m.IsWritten j := by
  have hnames : names.Nodup := by decide
  have hspans : ∀ (spans : Option Json) (ss : List Span), (∀ v, spans = some v ↔ j.Has names "spans" v) →
      ((spans.getD (.array [])).list? Span.ofJson? = some ss ↔ (ss = [] ∧ ∀ v, ¬ j.Has names "spans" v) ∨
        ∃ items, j.Has names "spans" (.array items) ∧ List.Forall₂ (fun i s => s.IsWritten i) items ss) := by
    intro spans ss hhas
    simp only [Json.list?_eq_some, Span.ofJson?_eq_some, ← hhas]
    cases spans <;> simp
  constructor
  · intro h
    unfold ToolMessage.ofJson? at h
    split at h
    · rename_i type message level spans hknown
      obtain ⟨hrecord, htype, hmessage, hlevel, hspans'⟩ := Json.known?_four hnames hknown
      simp only [Option.bind_eq_bind, Option.bind_eq_some_iff, Option.pure_def, Option.some.injEq,
        Json.text?_eq_some] at h
      obtain ⟨t, ht, s, rfl, l, rfl, ss, hss, rfl⟩ := h
      exact ⟨hrecord, (Json.optional?_getD_eq_some htype).1 ht, (hmessage _).1 rfl, (hlevel _).1 rfl,
        (hspans _ _ hspans').1 hss⟩
    · cases h
  · intro h
    obtain ⟨x, y, z, t, hknown⟩ := Json.exists_known?_four hnames h.record
    obtain ⟨-, htype, hmessage, hlevel, hspans'⟩ := Json.known?_four hnames hknown
    obtain rfl := (hmessage _).2 h.message
    obtain rfl := (hlevel _).2 h.level
    rw [ToolMessage.ofJson?, hknown]
    simp [(Json.optional?_getD_eq_some htype).2 h.type, (hspans _ _ hspans').2 h.spans, Json.text?, Json.text]

end ToolMessage

/-! ## Lines -/

/-- The place at which a message with these places is reported: the first primary one, or else the first. -/
inductive ReportedAt : List Span → String → Nat → Nat → Prop where
  | primary {before after : List Span} {s : Span} : (∀ t ∈ before, t.isPrimary = false) →
    s.isPrimary = true → ReportedAt (before ++ s :: after) s.file s.line s.column
  | first {s : Span} {after : List Span} : (∀ t ∈ s :: after, t.isPrimary = false) →
    ReportedAt (s :: after) s.file s.line s.column
  | nowhere : ReportedAt [] "" 0 0

/-- **The line reports the error**: it is a message, a diagnostic of an error level, and not the closing
message without a place. -/
inductive Reports (line : String) : Diagnostic → Prop where
  | message {j : Json} {m : ToolMessage} {file : String} {l c : Nat} :
    Json.read? line = some j → m.IsWritten j → (m.type = none ∨ m.type = some "diagnostic") →
    "error".toList <+: m.level.toList → ¬ (m.spans = [] ∧ "aborting due to".toList <+: m.message.toList) →
    ReportedAt m.spans file l c → Reports line ⟨file, l, c, m.message⟩

/-- The lines come to the diagnostics: one for each line that reports an error, in their order. -/
inductive Collects : List String → List Diagnostic → Prop where
  | nil : Collects [] []
  | report {line : String} {lines : List String} {d : Diagnostic} {ds : List Diagnostic} :
    Reports line d → Collects lines ds → Collects (line :: lines) (d :: ds)
  | other {line : String} {lines : List String} {ds : List Diagnostic} :
    (∀ d, ¬ Reports line d) → Collects lines ds → Collects (line :: lines) ds

theorem reportedAt_iff {m : ToolMessage} {file : String} {l c : Nat} :
    ReportedAt m.spans file l c ↔ m.diagnostic = ⟨file, l, c, m.message⟩ := by
  obtain ⟨type, message, level, spans⟩ := m
  have hnone : ∀ before : List Span, (∀ t ∈ before, t.isPrimary = false) →
      before.find? (·.isPrimary) = none := fun before hbefore => by simpa using hbefore
  constructor
  · intro h
    simp only [ToolMessage.diagnostic, ToolMessage.place?]
    cases h with
    | primary hbefore hprimary => simp [List.find?_append, hnone _ hbefore, hprimary]
    | first hafter => rw [hnone _ hafter]; rfl
    | nowhere => rfl
  · intro h
    simp only [ToolMessage.diagnostic, ToolMessage.place?] at h
    cases hfind : spans.find? (·.isPrimary) with
    | some s =>
      obtain ⟨hprimary, before, after, hspans, hbefore⟩ := List.find?_eq_some_iff_append.1 hfind
      simp only [hfind, Option.orElse_some, Diagnostic.mk.injEq] at h
      obtain ⟨rfl, rfl, rfl, -⟩ := h
      simp only [hspans]
      exact .primary (by simpa using hbefore) hprimary
    | none =>
      have hall : ∀ t ∈ spans, t.isPrimary = false := by simpa using hfind
      cases spans with
      | nil =>
        obtain ⟨rfl, rfl, rfl, -⟩ := Diagnostic.mk.inj h
        exact .nowhere
      | cons s after =>
        simp only [hfind, Option.orElse_none, List.head?_cons, Diagnostic.mk.injEq] at h
        obtain ⟨rfl, rfl, rfl, -⟩ := h
        exact .first hall

/-- The error that the line reports, if it reports one. -/
def error? (line : String) : Option Diagnostic :=
  ((ToolMessage.ofLine? line).filter (·.isError)).map (·.diagnostic)

theorem isError_iff {m : ToolMessage} : m.isError = true ↔ (m.type = none ∨ m.type = some "diagnostic") ∧
    "error".toList <+: m.level.toList ∧ ¬ (m.spans = [] ∧ "aborting due to".toList <+: m.message.toList) := by
  simp only [ToolMessage.isError, Bool.and_eq_true, and_assoc]
  refine and_congr ?_ (and_congr ?_ ?_)
  · cases m.type <;> simp
  · exact String.startsWith_string_iff
  · rw [Bool.not_eq_true', ← Bool.not_eq_true, Bool.and_eq_true, List.isEmpty_iff,
      String.startsWith_string_iff]

theorem error?_eq_some {line : String} {d : Diagnostic} : error? line = some d ↔ Reports line d := by
  simp only [error?, Option.map_eq_some_iff, Option.filter_eq_some_iff, ToolMessage.ofLine?,
    Option.bind_eq_some_iff, ToolMessage.ofJson?_eq_some, isError_iff]
  constructor
  · rintro ⟨m, ⟨⟨j, hj, hm⟩, htype, hlevel, haborting⟩, rfl⟩
    obtain ⟨file, l, c, hd⟩ : ∃ file l c, m.diagnostic = ⟨file, l, c, m.message⟩ := by
      unfold ToolMessage.diagnostic
      split <;> exact ⟨_, _, _, rfl⟩
    rw [hd]
    exact .message hj hm htype hlevel haborting (reportedAt_iff.2 hd)
  · rintro ⟨hj, hm, htype, hlevel, haborting, hplace⟩
    exact ⟨_, ⟨⟨_, hj, hm⟩, htype, hlevel, haborting⟩, reportedAt_iff.1 hplace⟩

theorem collects_iff {lines : List String} {ds : List Diagnostic} :
    Collects lines ds ↔ lines.filterMap error? = ds := by
  constructor
  · intro h
    induction h with
    | nil => rfl
    | report hline _ ih => rw [List.filterMap_cons_some (error?_eq_some.2 hline), ih]
    | @other line _ _ hline _ ih =>
      have hnone : error? line = none := by
        by_contra hsome
        obtain ⟨d, hd⟩ := Option.ne_none_iff_exists'.1 hsome
        exact hline d (error?_eq_some.1 hd)
      rw [List.filterMap_cons_none hnone, ih]
  · rintro rfl
    induction lines with
    | nil => exact .nil
    | cons line lines ih =>
      cases herror : error? line with
      | none =>
        rw [List.filterMap_cons_none herror]
        refine .other (fun d hd => ?_) ih
        rw [error?_eq_some.2 hd] at herror
        cases herror
      | some d =>
        rw [List.filterMap_cons_some herror]
        exact .report (error?_eq_some.1 herror) ih

/-- **What an output reports** is what its lines come to. -/
theorem reportedErrors_collects {output : String} {ds : List Diagnostic} :
    reportedErrors output = ds ↔ Collects (Text.lines output) ds := by
  rw [collects_iff, reportedErrors]
  have hline : ∀ lines : List String,
      ((lines.filterMap ToolMessage.ofLine?).filter (·.isError)).map (·.diagnostic) =
        lines.filterMap error? := by
    intro lines
    induction lines with
    | nil => rfl
    | cons line lines ih =>
      simp only [List.filterMap_cons, error?]
      cases ToolMessage.ofLine? line with
      | none => simpa [error?] using ih
      | some m => cases hm : m.isError <;> simp_all [error?, Option.filter]
  rw [hline]

/-! ## Lines of bytes -/

namespace Text

/-- No sequence of bytes goes on with a line feed. -/
theorem isSecond_lineFeed (a : UInt8) : isSecond a 10 = false := by
  unfold isSecond
  split_ifs <;> decide

/-- The character that the piece is decoded to. -/
def Utf8Piece.decoded : Utf8Piece → Char
  | .char c _ => c
  | .bad _ => '\ufffd'
  | .cut => '\ufffd'

/-- **A line feed** stands between what is in front of it and what is behind it, whatever these are. -/
theorem decoded_lineFeed (front back : List UInt8) :
    (utf8Pieces (front ++ 10 :: back)).map Utf8Piece.decoded =
      (utf8Pieces front).map Utf8Piece.decoded ++ '\n' :: (utf8Pieces back).map Utf8Piece.decoded := by
  have htrail : isTrail 10 = false := by decide
  have hlineFeed : utf8Pieces (10 :: back) = .char '\n' 1 :: utf8Pieces back := by
    rw [utf8Pieces.eq_def]
    rfl
  fun_induction utf8Pieces front with
  | case1 => simp [hlineFeed, Utf8Piece.decoded]
  | _ =>
    simp only [List.cons_append, List.nil_append]
    conv => lhs; rw [utf8Pieces.eq_def]
    simp_all [isSecond_lineFeed, Utf8Piece.decoded]

theorem decodeLossy_eq (bytes : List UInt8) :
    decodeLossy bytes = .ofList ((utf8Pieces bytes).map Utf8Piece.decoded) := by
  rw [decodeLossy]
  congr 2

theorem decodeLossy_lineFeed (front back : List UInt8) :
    decodeLossy (front ++ 10 :: back) = decodeLossy front ++ "\n" ++ decodeLossy back := by
  simp only [decodeLossy_eq, decoded_lineFeed]
  exact String.toList_injective (by simp)

theorem lineList_append {ls ls' : List (List Char)} (hne : ls' ≠ []) :
    lineList (ls ++ ls') = ls.map dropReturn ++ lineList ls' := by
  induction ls with
  | nil => rfl
  | cons l ls ih => rw [List.cons_append, lineList_cons (by simp [hne]), ih]; rfl

/-- The lines in front of a line feed do not depend on what is behind it. -/
theorem lines_lineFeed (s t : String) : lines (s ++ "\n" ++ t) = lines (s ++ "\n") ++ lines t := by
  have hlines : ∀ t : String, lines (s ++ "\n" ++ t) =
      ((splitOnChar '\n' s.toList).map dropReturn).map .ofList ++ lines t := by
    intro t
    have hsplit : (s ++ "\n" ++ t).toList = s.toList ++ '\n' :: t.toList := by simp
    rw [lines, hsplit, splitOnChar_append_sep, lineList_append (splitOnChar_ne_nil _ _), List.map_append]
    rfl
  have hempty : lines "" = [] := rfl
  have hfront := hlines ""
  rw [String.append_empty, hempty, List.append_nil] at hfront
  rw [hlines t, hfront]

end Text

/-- **A line is read alike** whatever bytes stand in front of it and behind it. -/
theorem reportedErrors_append (front back : List UInt8) :
    reportedErrors (Text.decodeLossy (front ++ 10 :: back)) =
      reportedErrors (Text.decodeLossy (front ++ [10])) ++ reportedErrors (Text.decodeLossy back) := by
  have hempty : Text.decodeLossy [] = "" := rfl
  rw [Text.decodeLossy_lineFeed front back, Text.decodeLossy_lineFeed front [], hempty, String.append_empty]
  simp only [reportedErrors, Text.lines_lineFeed, List.filterMap_append, List.filter_append, List.map_append]

/-! ## Failed compilations -/

/-- **A failed compilation** leaves what the lines of the output come to or, if that is nothing, the output
itself, at no place in the file. -/
theorem failureDiagnostics_eq {stderr : List UInt8} {errors : List Diagnostic} (file : String)
    (h : Collects (Text.lines (Text.decodeLossy stderr)) errors) : failureDiagnostics file stderr =
      if errors = [] then [⟨file, 0, 0, Text.trim (Text.decodeLossy stderr)⟩] else errors := by
  rw [← reportedErrors_collects] at h
  simp only [failureDiagnostics, h]
  cases errors <;> rfl

theorem failureDiagnostics_ne_nil (file : String) (stderr : List UInt8) :
    failureDiagnostics file stderr ≠ [] := by
  rw [failureDiagnostics_eq file (reportedErrors_collects.1 rfl)]
  split_ifs with h
  · exact List.cons_ne_nil _ _
  · exact h

end TypeFoundry
