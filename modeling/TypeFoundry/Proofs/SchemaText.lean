import TypeFoundry.Proofs.Names
import TypeFoundry.Proofs.Schema
import TypeFoundry.Proofs.Spelling

/-!
# The tokens of a schema's text

`Schema.tokens` are the tokens of a schema's unit. The text of a well-formed schema is scanned into
the tokens of a schema that differs at most in commas inside angle brackets (`Schema.scans_text`):
names are wider than any line allows, so where a type does not fit it is broken, and a broken list
ends in a comma.
-/

set_option autoImplicit false

namespace TypeFoundry.Synthesis

open Source Layout
open Scan (endsWord isSeparator forall_mem_of_all)
open Source.Scans (unitMarks)
open Text.Identifier (isStart)

/-! ## Tokens -/

/-- The tokens of a type constructor applied to one type, with a comma behind that type or not. -/
def angledTokens (name : String) (ts : Tokens) (comma : Bool) : Tokens :=
  .word name :: .mark '<' false :: (ts ++ ((if comma then [.mark ',' false] else []) ++ [.mark '>' true]))

/-- The tokens of names with two colons between them. -/
def namesTokens (names : List String) : Tokens := joinedBy (op "::") (names.map ([.word ·]))

/-- The tokens of a field's type. -/
def ValueType.tokens : ValueType → Tokens
  | primitive name => [.word name]
  | reference target outer inner =>
    angledTokens "Option" (angledTokens "Box" (namesTokens target.crateSegments) inner) outer

/-- The tokens of a field behind its attributes. -/
def fieldTokens (name : String) (type : Tokens) : Tokens :=
  .word "pub" :: .word name :: .mark ':' false :: (type ++ [.mark ',' false])

/-- The tokens of a field. -/
def SchemaField.tokens (f : SchemaField) : Tokens := fieldTokens f.name f.value.tokens

/-- The tokens of what an import names behind `crate`. -/
def importTokens : List String → Tokens
  | [] => [.mark ':' true, .mark ':' true, .mark '*' true]
  | m :: path => [.mark ':' true, .mark ':' false, .word m] ++ importTokens path

/-- The tokens of an import. -/
def useTokens (path : List String) : Tokens :=
  .word "use" :: .word "crate" :: (importTokens path ++ [.mark ';' false])

/-- The tokens of the modules with the given tokens in the innermost. -/
def encloseTokens : List String → Tokens → Tokens
  | [], ts => ts
  | m :: modules, ts => [.word "pub", .word "mod", .word m, .group .brace (encloseTokens modules ts)]

/-- The tokens of the attributes of every unit. -/
def unitAttributes : Tokens :=
  docTokens "Generated by typeforge" true ++
    [.mark '#' true, .mark '!' false, .group .bracket [.word "allow", .group .paren
      [.word "dead_code", .mark ',' false, .word "non_snake_case", .mark ',' false,
        .word "unused_imports"]]]

namespace Schema

/-- The tokens of the fields. -/
def fieldsTokens (s : Schema) : Tokens :=
  docTokens " UUID, stored as its 128-bit value." false ++
    (fieldTokens identityField [.word "u128"] ++ (fieldTokens displayNameField [.word "String"] ++
      (s.fields.map SchemaField.tokens).flatten))

/-- The tokens of the struct behind its attributes. -/
def declTokens (s : Schema) : Tokens :=
  [.word "pub", .word "struct", .word s.name, .group .brace s.fieldsTokens]

/-- The tokens of the struct. -/
def structTokens (s : Schema) : Tokens :=
  [.mark '#' false, .group .bracket [.word "derive", .group .paren [.word "Default"]]] ++ s.declTokens

/-- The tokens of the unit. -/
def tokens (s : Schema) : Tokens :=
  unitAttributes ++
    encloseTokens s.modules ((s.imports.map useTokens).flatten ++ s.structTokens)

end Schema

/-! ## Words and types -/

/-- The text starts with a letter of a word. -/
def StartsWord (cs : List Char) : Prop := ∃ c, cs.head? = some c ∧ isStart c = true

theorem startsWord_append {cs : List Char} (h : StartsWord cs) (ds : List Char) :
    StartsWord (cs ++ ds) := by
  obtain ⟨c, hc, hs⟩ := h
  cases cs with
  | nil => cases hc
  | cons d cs => exact ⟨c, hc, hs⟩

theorem startsWord_word {w : String} (hw : isIdentifier w = true) : StartsWord w.toList := by
  obtain ⟨c, cs, h, hs⟩ := Scan.head_identifier hw
  exact ⟨c, by rw [h]; rfl, hs⟩

/-- A word with a blank behind it, in front of anything. -/
theorem spells_spaced {w : String} (hw : isIdentifier w = true) (ends : Char → Bool) :
    Spells ends [.word w] (w.toList ++ [' ']) := by
  have hgap : Spells ends [] [' '] := .gap (forall_mem_of_all (by decide +kernel))
  exact (Spells.word hw).append hgap ⟨' ', rfl, by decide⟩

/-- Two colons in front of a word. -/
theorem spells_colons : Spells isStart [.mark ':' true, .mark ':' false] "::".toList := by
  have hjoint : Spells (· == ':') [.mark ':' true] [':'] :=
    .jointMark (by decide) fun d hd => by rw [eq_of_beq hd]; decide
  have hlone : Spells isStart [.mark ':' false] [':'] :=
    .loneMark (by decide) fun d hd => marks_contains_eq_false hd
  exact hjoint.append hlone ⟨':', rfl, rfl⟩

theorem writes_names {names : List String} (hne : names ≠ [])
    (h : ∀ w ∈ names, isIdentifier w = true) :
    Writes (separated (word "::") (names.map word)) fun cs =>
      Spells endsWord (namesTokens names) cs ∧ StartsWord cs := by
  induction names with
  | nil => exact absurd rfl hne
  | cons w names ih =>
    have hw := h w List.mem_cons_self
    cases names with
    | nil => exact (Writes.word w).mono fun cs hcs => hcs ▸ ⟨.word hw, startsWord_word hw⟩
    | cons v names =>
      have ih := ih (by simp) fun u hu => h u (List.mem_cons_of_mem _ hu)
      refine (((Writes.word w).append (Writes.word "::")).append ih).mono fun cs hcs => ?_
      obtain ⟨_, b, ⟨_, _, rfl, rfl, rfl⟩, ⟨hb, hstart⟩, rfl⟩ := hcs
      have hcolons := spells_colons.append hb hstart
      have hall := (Spells.word hw).append hcolons ⟨':', rfl, by decide⟩
      rw [List.append_assoc]
      exact ⟨hall, startsWord_append (startsWord_word hw) _⟩

/-- What stands behind a type in a unit. -/
def endsType (c : Char) : Bool := c == ',' || c == '>'

theorem endsType_cases {c : Char} (h : endsType c = true) : c = ',' ∨ c = '>' := by
  simpa [endsType] using h

/-- The text of a type of one of the token lists. -/
def IsTypeOf (T : Tokens → Prop) (cs : List Char) : Prop :=
  ∃ ts, T ts ∧ Spells endsType ts cs ∧ StartsWord cs

theorem spells_angle : Spells isStart [.mark '<' false] ['<'] :=
  .loneMark (by decide) fun d hd => marks_contains_eq_false hd

/-- **A type constructor applied to a type** stands on one line, or is broken and holds a comma. -/
theorem writes_angled {name : String} (hname : isIdentifier name = true) {d : Doc}
    {T : Tokens → Prop} (h : Writes d (IsTypeOf T)) :
    Writes (word name ++ enclosed "<" ">" indent [d])
      (IsTypeOf fun ts => ∃ us comma, T us ∧ ts = angledTokens name us comma) := by
  refine ((Writes.word name).append (h.enclosed "<" ">")).mono fun cs hcs => ?_
  obtain ⟨_, b, rfl, hb, rfl⟩ := hcs
  have hclose : Spells endsType [.mark '>' true] ['>'] :=
    .jointMark (by decide) fun d hd => by obtain rfl | rfl := endsType_cases hd <;> decide
  have hstart := startsWord_append (startsWord_word hname) b
  cases hb with
  | @tight a ha =>
    obtain ⟨us, hT, hus, hstart'⟩ := ha
    refine ⟨_, ⟨us, false, hT, rfl⟩, ?_, hstart⟩
    have hinside := hus.append hclose ⟨'>', rfl, rfl⟩
    have hopen := spells_angle.append hinside (startsWord_append hstart' _)
    exact (Spells.word hname).append hopen ⟨'<', rfl, by decide⟩
  | @wide a i j ha =>
    obtain ⟨us, hT, hus, hstart'⟩ := ha
    refine ⟨_, ⟨us, true, hT, rfl⟩, ?_, hstart⟩
    have hcomma : Spells (· == '\n') [.mark ',' false] [','] :=
      .loneMark (by decide) fun d hd => by rw [eq_of_beq hd]; decide
    have hopen : Spells (· == '\n') [.mark '<' false] ['<'] :=
      .loneMark (by decide) fun d hd => by rw [eq_of_beq hd]; decide
    have hgap : ∀ k, ∀ c ∈ '\n' :: blanks k, isSeparator c = true := by
      intro k c hc
      obtain rfl | hc := List.mem_cons.1 hc
      · decide
      · exact isSeparator_of_mem_blanks hc
    have hend := hcomma.append (hclose.blanks (hgap j)) ⟨'\n', rfl, rfl⟩
    have hinside := (hus.append hend ⟨',', rfl, rfl⟩).blanks (hgap i)
    have := (Spells.word hname).append (hopen.append hinside ⟨'\n', rfl, rfl⟩) ⟨'<', rfl, by decide⟩
    simpa [angledTokens] using this

theorem segmentsLayout_plain (constant : Tokens → Doc) (names : List String) :
    segmentsLayout constant false (names.map .plain) = names.map word := by
  induction names with
  | nil => rfl
  | cons n names ih => simp [segmentsLayout, Segment.layout, ih]

theorem writes_ofNames (constant : Tokens → Doc) {names : List String} (hne : names ≠ [])
    (h : ∀ w ∈ names, isIdentifier w = true) :
    Writes ((Ty.ofNames false names).layout constant) (IsTypeOf (· = namesTokens names)) := by
  have hlayout : (Ty.ofNames false names).layout constant =
      separated (word "::") (names.map word) := by
    simp [Ty.ofNames, Ty.layout, segmentsLayout_plain]
  rw [hlayout]
  refine (writes_names hne h).mono fun cs ⟨hcs, hstart⟩ => ⟨_, rfl, hcs.mono fun c hc => ?_, hstart⟩
  obtain rfl | rfl := endsType_cases hc <;> decide

theorem isIdentifier_of_isItemName {w : String} (h : isItemName w = true) :
    isIdentifier w = true := (Bool.and_eq_true_iff.1 h).1

theorem isIdentifier_of_isPathName {w : String} (h : isPathName w = true) :
    isIdentifier w = true := (Bool.and_eq_true_iff.1 h).1

/-- **The type of a field** writes its tokens, perhaps with other commas in its brackets. -/
theorem ValueType.writes (constant : Tokens → Doc) {v : ValueType} (h : v.WellFormed) :
    Writes (v.ty.layout constant)
      (IsTypeOf fun ts => ∃ v' : ValueType, v'.plain = v.plain ∧ ts = v'.tokens) := by
  cases v with
  | primitive name =>
    have := @writes_ofNames constant [name] (by simp)
      (by simpa using isIdentifier_of_isItemName h)
    exact this.mono fun cs ⟨ts, hts, hcs⟩ => ⟨ts, ⟨.primitive name, rfl, hts⟩, hcs⟩
  | reference target outer inner =>
    have hnames : ∀ w ∈ target.crateSegments, isIdentifier w = true := by
      intro w hw
      obtain rfl | hw := List.mem_cons.1 hw
      · decide
      · exact isIdentifier_of_isPathName (h w hw)
    have hpath := writes_ofNames constant (by simp [TypePath.crateSegments]) hnames
    have hbox := @writes_angled "Box" (by decide) _ _ hpath
    have hoption := @writes_angled "Option" (by decide) _ _ hbox
    refine Writes.mono (d := (ty (.reference target outer inner)).layout constant) hoption ?_
    rintro cs ⟨ts, ⟨us, o, ⟨vs, i, rfl, rfl⟩, rfl⟩, hcs⟩
    exact ⟨_, ⟨.reference target o i, rfl, rfl⟩, hcs⟩


/-! ## Attributes -/

/-- What stands behind a word in the parentheses of an attribute. -/
def endsArgument (c : Char) : Bool := c == ',' || c == ')' || c == '\n'

theorem endsWord_of_endsArgument {c : Char} (h : endsArgument c = true) : endsWord c = true := by
  have : c = ',' ∨ c = ')' ∨ c = '\n' := by simpa [endsArgument, or_assoc] using h
  obtain rfl | rfl | rfl := this <;> decide

theorem isSeparator_of_gap {k : Nat} {c : Char} (h : c ∈ '\n' :: blanks k) :
    isSeparator c = true := by
  obtain rfl | h := List.mem_cons.1 h
  · decide
  · exact isSeparator_of_mem_blanks h

/-- What stands between parentheses, on one line or on lines of its own, is a group. -/
theorem spells_parens {ends : Char → Bool} {ts : Tokens} {cs : List Char}
    (h : Boxed "(" "" ")" (Spells endsArgument ts) cs) : Spells ends [.group .paren ts] cs := by
  cases h with
  | @tight a ha =>
    have hgroup := Spells.group (d := .paren) (ha.mono fun c hc => by rw [eq_of_beq hc]; decide)
    exact hgroup.mono fun _ _ => rfl
  | @wide a i j ha =>
    have hend : Spells (· == Delimiter.paren.closer) [] ('\n' :: blanks j) :=
      .gap fun _ => isSeparator_of_gap
    have hinside := (ha.append hend ⟨'\n', rfl, rfl⟩).blanks fun c => isSeparator_of_gap (k := i)
    rw [List.append_nil] at hinside
    have hgroup : Spells ends _ _ := (hinside.group (d := .paren)).mono fun _ _ => rfl
    simpa [Delimiter.opener, Delimiter.closer] using hgroup

/-- A list in parentheses behind the name of an attribute. -/
theorem writes_call {w : String} (hw : isIdentifier w = true) {d : Doc} {ts : Tokens}
    (h : Writes d (Spells endsArgument ts)) :
    Writes (word w ++ (word "(" ++ cbox indent (zerobreak 0 ++ (d ++ lastBreak "")) ++ word ")"))
      (Spells (fun _ => true) [.word w, .group .paren ts]) := by
  refine ((Writes.word w).append (h.box "(" "" ")")).mono fun cs hcs => ?_
  obtain ⟨_, b, rfl, hb, rfl⟩ := hcs
  refine (Spells.word hw).append (spells_parens hb) ⟨'(', ?_, by decide⟩
  cases hb <;> rfl

theorem writes_argument {w : String} (hw : isIdentifier w = true) :
    Writes (word w) fun cs => Spells endsArgument [.word w] cs ∧ StartsWord cs :=
  (Writes.word w).mono fun _ hcs =>
    hcs ▸ ⟨(Spells.word hw).mono fun _ => endsWord_of_endsArgument, startsWord_word hw⟩

/-- One more word behind a comma in the parentheses of an attribute. -/
theorem writes_commaWord {d : Doc} {ts : Tokens} {w : String}
    (h : Writes d (Spells endsArgument ts)) (hw : isIdentifier w = true) :
    Writes (d ++ (word "," ++ (space 0 ++ word w)))
      (Spells endsArgument (ts ++ [.mark ',' false, .word w])) := by
  refine (h.append ((writes_argument hw).spaced ",")).mono fun cs hcs => ?_
  obtain ⟨a, _, ha, ⟨gap, b, hgap, ⟨hb, hstart⟩, rfl⟩, rfl⟩ := hcs
  have hcomma : Spells (fun c => c == ' ' || c == '\n' || isStart c) [.mark ',' false] [','] := by
    refine .loneMark (by decide) fun d hd => ?_
    have : (d = ' ' ∨ d = '\n') ∨ isStart d = true := by simpa using hd
    obtain (rfl | rfl) | hd := this
    · decide
    · decide
    · exact marks_contains_eq_false hd
  have hword := hb.blanks (s := gap) fun c hc => by obtain rfl | rfl := hgap c hc <;> decide
  have hnext : ∃ c, (gap ++ b).head? = some c ∧ (c == ' ' || c == '\n' || isStart c) = true := by
    cases gap with
    | nil =>
      obtain ⟨c, hc, hs⟩ := hstart
      exact ⟨c, hc, by simp [hs]⟩
    | cons c gap => exact ⟨c, rfl, by obtain rfl | rfl := hgap c List.mem_cons_self <;> decide⟩
  exact ha.append (hcomma.append hword hnext) ⟨',', rfl, by decide⟩

/-- The line of an attribute that belongs to what follows it. -/
theorem writes_outer {d : Doc} {ts : Tokens} (h : Writes d (Spells (fun _ => true) ts)) :
    Writes (word "#[" ++ d ++ word "]")
      (IsLineOf (· = [.mark '#' false, .group .bracket ts])) := by
  refine (((Writes.word "#[").append h).append (Writes.word "]")).mono fun cs hcs => ?_
  obtain ⟨_, _, ⟨_, a, rfl, ha, rfl⟩, rfl, rfl⟩ := hcs
  have hhash : Spells (· == '[') [.mark '#' false] ['#'] :=
    .loneMark (by decide) fun d hd => by rw [eq_of_beq hd]; decide
  have hgroup : Spells (· == '\n') _ _ := ((ha.mono fun _ _ => rfl).group (d := .bracket)).mono
    fun _ _ => rfl
  have := hhash.append hgroup ⟨'[', rfl, rfl⟩
  exact ⟨_, rfl, by simpa [Delimiter.opener, Delimiter.closer] using this⟩

/-- The line of an attribute that belongs to what encloses it. -/
theorem writes_inner {d : Doc} {ts : Tokens} (h : Writes d (Spells (fun _ => true) ts)) :
    Writes (word "#![" ++ d ++ word "]")
      (IsLineOf (· = [.mark '#' true, .mark '!' false, .group .bracket ts])) := by
  refine (((Writes.word "#![").append h).append (Writes.word "]")).mono fun cs hcs => ?_
  obtain ⟨_, _, ⟨_, a, rfl, ha, rfl⟩, rfl, rfl⟩ := hcs
  have hhash : Spells (· == '!') [.mark '#' true] ['#'] :=
    .jointMark (by decide) fun d hd => by rw [eq_of_beq hd]; decide
  have hbang : Spells (· == '[') [.mark '!' false] ['!'] :=
    .loneMark (by decide) fun d hd => by rw [eq_of_beq hd]; decide
  have hgroup : Spells (· == '\n') _ _ := ((ha.mono fun _ _ => rfl).group (d := .bracket)).mono
    fun _ _ => rfl
  have := hhash.append (hbang.append hgroup ⟨'[', rfl, rfl⟩) ⟨'!', rfl, rfl⟩
  exact ⟨_, rfl, by simpa [Delimiter.opener, Delimiter.closer] using this⟩

/-- The attribute that derives a default value. -/
theorem writes_derive (constant : Tokens → Doc) :
    Writes ((wordsAttribute false "derive" ["Default"]).line constant).content
      (IsLineOf (· = [.mark '#' false, .group .bracket
        [.word "derive", .group .paren [.word "Default"]]])) :=
  writes_outer (writes_call (by decide) ((writes_argument (by decide)).mono fun _ h => h.1))

/-- The attribute that silences warnings. -/
theorem writes_silence (constant : Tokens → Doc) :
    Writes (silence.line constant).content
      (IsLineOf (· = [.mark '#' true, .mark '!' false, .group .bracket [.word "allow",
        .group .paren [.word "dead_code", .mark ',' false, .word "non_snake_case", .mark ',' false,
          .word "unused_imports"]]])) := by
  have hwords := writes_commaWord (writes_commaWord
    ((writes_argument (w := "dead_code") (by decide +kernel)).mono fun _ h => h.1)
    (w := "non_snake_case") (by decide +kernel)) (w := "unused_imports") (by decide +kernel)
  have hline : (silence.line constant).content =
      word "#![" ++ (word "allow" ++ (word "(" ++ cbox indent (zerobreak 0 ++
        (((word "dead_code" ++ (word "," ++ (space 0 ++ word "non_snake_case"))) ++
          (word "," ++ (space 0 ++ word "unused_imports"))) ++ lastBreak "")) ++ word ")")) ++
      word "]" := rfl
  rw [hline]
  exact writes_inner (writes_call (w := "allow") (by decide +kernel) hwords)

theorem writes_unitDoc (constant : Tokens → Doc) :
    Writes ((docAttribute true "Generated by typeforge").line constant).content
      (IsLineOf (· = docTokens "Generated by typeforge" true)) := by
  have hline : ((docAttribute true "Generated by typeforge").line constant).content =
      word "//!" ++ word "Generated by typeforge" := rfl
  rw [hline]
  refine ((Writes.word "//!").append (Writes.word _)).mono fun cs hcs => ?_
  obtain ⟨_, _, rfl, rfl, rfl⟩ := hcs
  exact .innerDoc (forall_mem_of_all (by decide +kernel))

theorem writes_identityDoc (constant : Tokens → Doc) :
    Writes ((docAttribute false " UUID, stored as its 128-bit value.").line constant).content
      (IsLineOf (· = docTokens " UUID, stored as its 128-bit value." false)) := by
  have hline : ((docAttribute false " UUID, stored as its 128-bit value.").line constant).content =
      word "///" ++ word " UUID, stored as its 128-bit value." := rfl
  rw [hline]
  refine ((Writes.word "///").append (Writes.word _)).mono fun cs hcs => ?_
  obtain ⟨_, _, rfl, rfl, rfl⟩ := hcs
  exact .outerDoc (forall_mem_of_all (by decide +kernel)) (by decide +kernel)


/-! ## Fields and imports -/

/-- **The line of a field.** -/
theorem writes_field (inner : Inner) {f : Field} (hv : f.visibility = .everywhere)
    (hname : isIdentifier f.name = true) {T : Tokens → Prop}
    (h : Writes (f.type.layout inner.constant) (IsTypeOf T)) :
    Writes (f.content inner ++ word ",") (IsLineOf fun ts => ∃ us, T us ∧ ts = fieldTokens f.name us) := by
  have hlayout : f.content inner =
      word "pub " ++ word f.name ++ word ": " ++ f.type.layout inner.constant := by
    simp only [Field.content, hv]
    rfl
  rw [hlayout]
  refine (((((Writes.word "pub ").append (Writes.word f.name)).append (Writes.word ": ")).append
    h).append (Writes.word ",")).mono fun cs hcs => ?_
  obtain ⟨_, _, ⟨_, a, ⟨_, _, ⟨_, _, rfl, rfl, rfl⟩, rfl, rfl⟩, ⟨us, hT, ha, hstart⟩, rfl⟩, rfl, rfl⟩ := hcs
  have hpub : Spells (fun _ => true) [.word "pub"] "pub ".toList := spells_spaced (by decide) _
  have hcolon : Spells (fun _ => true) [.mark ':' false] ": ".toList := by
    have hmark : Spells (· == ' ') [.mark ':' false] [':'] :=
      .loneMark (by decide) fun d hd => by rw [eq_of_beq hd]; decide
    have hgap : Spells (fun _ => true) [] [' '] := .gap (forall_mem_of_all (by decide +kernel))
    exact hmark.append hgap ⟨' ', rfl, rfl⟩
  have hcomma : Spells (· == '\n') [.mark ',' false] [','] :=
    .loneMark (by decide) fun d hd => by rw [eq_of_beq hd]; decide
  have hend := ha.append hcomma ⟨',', rfl, by decide⟩
  obtain ⟨c, hc, -⟩ := startsWord_append hstart ",".toList
  have htype := hcolon.append hend ⟨c, hc, rfl⟩
  obtain ⟨d, hd, -⟩ := startsWord_word hname
  have hfield := (Spells.word hname).append htype ⟨':', rfl, by decide⟩
  refine ⟨_, ⟨us, hT, rfl⟩, ?_⟩
  have := hpub.append hfield (by
    cases hn : f.name.toList with
    | nil => rw [hn] at hd; cases hd
    | cons e es => exact ⟨e, rfl, rfl⟩)
  simpa [fieldTokens] using this

/-- The fields of a schema, with commas in the brackets of their types where a line was broken. -/
theorem writes_fields (inner : Inner) {fs : List SchemaField} (h : ∀ f ∈ fs, f.WellFormed) :
    WritesLines (fieldLines inner (fs.map SchemaField.field)) fun ts =>
      ∃ fs' : List SchemaField, fs'.map SchemaField.plain = fs.map SchemaField.plain ∧
        ts = (fs'.map SchemaField.tokens).flatten := by
  induction fs with
  | nil => exact WritesLines.nil.mono fun ts hts => ⟨[], rfl, hts⟩
  | cons f fs ih =>
    have hf := h f List.mem_cons_self
    have ih := ih fun g hg => h g (List.mem_cons_of_mem _ hg)
    have hline := writes_field inner (f := f.field) rfl (isIdentifier_of_isItemName hf.name)
      (ValueType.writes inner.constant hf.value)
    have hlines : fieldLines inner ((f :: fs).map SchemaField.field) =
        [Line.whole (f.field.content inner ++ word ",")] ++
          fieldLines inner (fs.map SchemaField.field) := rfl
    rw [hlines]
    refine ((WritesLines.single (l := .whole _) hline).append ih).mono fun ts hts => ?_
    obtain ⟨_, _, ⟨_, ⟨v, hv, rfl⟩, rfl⟩, ⟨fs', hfs, rfl⟩, rfl⟩ := hts
    refine ⟨⟨f.name, v⟩ :: fs', ?_, rfl⟩
    simp only [List.map_cons, hfs, SchemaField.plain, hv]

/-- What an import names behind `crate`. -/
theorem writes_importTree {path : List String} (h : ∀ w ∈ path, isIdentifier w = true) :
    Writes (word "::" ++ (path.foldr UseTree.path .glob).layout) fun cs =>
      Spells (· == ';') (importTokens path) cs ∧ cs.head? = some ':' := by
  induction path with
  | nil =>
    refine ((Writes.word "::").append (Writes.word "*")).mono fun cs hcs => ?_
    obtain ⟨_, _, rfl, rfl, rfl⟩ := hcs
    have hfirst : Spells (· == ':') [.mark ':' true] [':'] :=
      .jointMark (by decide) fun d hd => by rw [eq_of_beq hd]; decide
    have hsecond : Spells (· == '*') [.mark ':' true] [':'] :=
      .jointMark (by decide) fun d hd => by rw [eq_of_beq hd]; decide
    have hstar : Spells (· == ';') [.mark '*' true] ['*'] :=
      .jointMark (by decide) fun d hd => by rw [eq_of_beq hd]; decide
    exact ⟨hfirst.append (hsecond.append hstar ⟨'*', rfl, rfl⟩) ⟨':', rfl, rfl⟩, rfl⟩
  | cons m path ih =>
    have hm := h m List.mem_cons_self
    have ih := ih fun w hw => h w (List.mem_cons_of_mem _ hw)
    have hlayout : word "::" ++ ((m :: path).foldr UseTree.path .glob).layout =
        word "::" ++ word m ++ (word "::" ++ (path.foldr UseTree.path .glob).layout) := by
      simp [UseTree.layout]
    rw [hlayout]
    refine (((Writes.word "::").append (Writes.word m)).append ih).mono fun cs hcs => ?_
    obtain ⟨_, b, ⟨_, _, rfl, rfl, rfl⟩, ⟨hb, hhead⟩, rfl⟩ := hcs
    have hword := (Spells.word hm).append hb ⟨':', hhead, by decide⟩
    have := spells_colons.append hword (startsWord_append (startsWord_word hm) b)
    rw [List.append_assoc]
    exact ⟨this, rfl⟩

/-- The line of an import. -/
theorem writes_use {path : List String} (h : ∀ w ∈ path, isUseName w = true) :
    Writes (importOf path).layout (IsLineOf (· = useTokens path)) := by
  have hnames : ∀ w ∈ path, isIdentifier w = true := fun w hw =>
    isIdentifier_of_isPathName (Bool.and_eq_true_iff.1 (h w hw)).1
  have hlayout : (importOf path).layout = word "use " ++ word "crate" ++
      (word "::" ++ (path.foldr UseTree.path .glob).layout) ++ word ";" := by
    simp [UseDecl.layout, importOf, importTree, UseTree.layout, Visibility.layout]
  rw [hlayout]
  refine ((((Writes.word "use ").append (Writes.word "crate")).append
    (writes_importTree hnames)).append (Writes.word ";")).mono fun cs hcs => ?_
  obtain ⟨_, _, ⟨_, b, ⟨_, _, rfl, rfl, rfl⟩, ⟨hb, hhead⟩, rfl⟩, rfl, rfl⟩ := hcs
  have huse : Spells (fun _ => true) [.word "use"] "use ".toList := spells_spaced (by decide) _
  have hend : Spells (· == '\n') [.mark ';' false] [';'] :=
    .loneMark (by decide) fun d hd => by rw [eq_of_beq hd]; decide
  have htree := hb.append hend ⟨';', rfl, rfl⟩
  have hcrate : Spells (· == '\n') _ _ := (Spells.word (w := "crate") (by decide)).append htree
    ⟨':', by cases b with | nil => cases hhead | cons c b => exact hhead, by decide⟩
  have := huse.append hcrate ⟨'c', rfl, rfl⟩
  refine ⟨_, rfl, ?_⟩
  simpa [useTokens] using this

theorem writes_imports (inner : Inner) {paths : List (List String)}
    (h : ∀ path ∈ paths, ∀ w ∈ path, isUseName w = true) :
    WritesLines (itemsLines inner (paths.map fun path => .use (importOf path)))
      (· = (paths.map useTokens).flatten) := by
  induction paths with
  | nil => exact .nil
  | cons path paths ih =>
    have hline := writes_use (h path List.mem_cons_self)
    have ih := ih fun p hp => h p (List.mem_cons_of_mem _ hp)
    refine ((WritesLines.single (l := .whole _) hline).append ih).mono fun ts hts => ?_
    obtain ⟨_, _, rfl, rfl, rfl⟩ := hts
    rfl

/-! ## Items -/

/-- The fields of the struct, the common ones first. -/
theorem writes_allFields (inner : Inner) {fs : List SchemaField} (h : ∀ f ∈ fs, f.WellFormed) :
    WritesLines (fieldLines inner (Schema.commonFields ++ fs.map SchemaField.field)) fun ts =>
      ∃ fs' : List SchemaField, fs'.map SchemaField.plain = fs.map SchemaField.plain ∧
        ts = docTokens " UUID, stored as its 128-bit value." false ++
          (fieldTokens identityField [.word "u128"] ++ (fieldTokens displayNameField [.word "String"] ++
            (fs'.map SchemaField.tokens).flatten)) := by
  have hidentity := writes_field inner (f := Schema.identity) rfl (by decide)
    (writes_ofNames inner.constant (List.cons_ne_nil "u128" []) (by decide))
  have hname := writes_field inner (f := Schema.displayName) rfl (by decide)
    (writes_ofNames inner.constant (List.cons_ne_nil "String" []) (by decide))
  have hdoc : WritesLines
      [(docAttribute false " UUID, stored as its 128-bit value.").line inner.constant] _ :=
    .single (writes_identityDoc inner.constant)
  refine (hdoc.append ((WritesLines.single (l := .whole _) hidentity).append
    ((WritesLines.single (l := .whole _) hname).append (writes_fields inner h)))).mono fun ts hts => ?_
  obtain ⟨_, _, rfl, ⟨_, _, ⟨_, rfl, rfl⟩, ⟨_, _, ⟨_, rfl, rfl⟩, ⟨fs', hfs, rfl⟩, rfl⟩, rfl⟩, rfl⟩ := hts
  exact ⟨fs', hfs, rfl⟩

/-- **The struct of a schema.** -/
theorem writes_struct (inner : Inner) {s : Schema} (h : s.WellFormed) :
    WritesLines (s.struct.lines inner) fun ts =>
      ∃ fs' : List SchemaField, fs'.map SchemaField.plain = s.fields.map SchemaField.plain ∧
        ts = { s with fields := fs' }.structTokens := by
  have hname := isIdentifier_of_isItemName h.name
  have hhead : Spells (· == '\x7b') [.word "pub", .word "struct", .word s.name]
      ("pub ".toList ++ ("struct ".toList ++ (s.name.toList ++ [' ']))) := by
    have hpub : Spells (fun _ => true) [.word "pub"] "pub ".toList := spells_spaced (by decide) _
    have hstruct : Spells (fun _ => true) [.word "struct"] "struct ".toList :=
      spells_spaced (by decide) _
    obtain ⟨c, hc, -⟩ := startsWord_append (startsWord_word hname) [' ']
    exact hpub.append (hstruct.append (spells_spaced hname _) ⟨c, hc, rfl⟩) ⟨'s', rfl, rfl⟩
  have hblock := (writes_allFields inner h.fields).block (by simp [Schema.commonFields, fieldLines])
    "pub " ["struct ", s.name, " ", "\x7b"] (by simp) hhead
  have hlines : s.struct.lines inner =
      [(wordsAttribute false "derive" ["Default"]).line inner.constant] ++
        [.whole (cbox indent (("pub " :: ["struct ", s.name, " ", "\x7b"]).flatMap word ++
          (hardbreak 0 ++ innerLines
            (fieldLines inner (Schema.commonFields ++ s.fields.map SchemaField.field)))) ++
          word "\x7d")] := rfl
  rw [hlines]
  refine ((WritesLines.single (writes_derive inner.constant)).append
    (WritesLines.single (l := .whole _) hblock)).mono fun ts hts => ?_
  obtain ⟨_, _, rfl, ⟨_, ⟨fs', hfs, rfl⟩, rfl⟩, rfl⟩ := hts
  exact ⟨fs', hfs, rfl⟩

/-- The modules around lines. -/
theorem writes_enclose (inner : Inner) {items : List Item} {T : Tokens → Prop}
    (h : WritesLines (itemsLines inner items) T) (hne : itemsLines inner items ≠ [])
    {modules : List String} (hm : ∀ m ∈ modules, isModuleName m = true) :
    WritesLines (itemsLines inner (enclose modules items)) (fun ts =>
      ∃ us, T us ∧ ts = encloseTokens modules us) ∧
      itemsLines inner (enclose modules items) ≠ [] := by
  induction modules with
  | nil => exact ⟨h.mono fun ts hts => ⟨ts, hts, rfl⟩, hne⟩
  | cons m modules ih =>
    obtain ⟨hlines, hne'⟩ := ih fun w hw => hm w (List.mem_cons_of_mem _ hw)
    have hname : isIdentifier m = true := (Bool.and_eq_true_iff.1 (hm m List.mem_cons_self)).1
    have hhead : Spells (· == '\x7b') [.word "pub", .word "mod", .word m]
        ("pub ".toList ++ ("mod ".toList ++ (m.toList ++ [' ']))) := by
      have hpub : Spells (fun _ => true) [.word "pub"] "pub ".toList := spells_spaced (by decide) _
      have hmod : Spells (fun _ => true) [.word "mod"] "mod ".toList := spells_spaced (by decide) _
      obtain ⟨c, hc, -⟩ := startsWord_append (startsWord_word hname) [' ']
      exact hpub.append (hmod.append (spells_spaced hname _) ⟨c, hc, rfl⟩) ⟨'m', rfl, rfl⟩
    have hblock := hlines.block hne' "pub " ["mod ", m, " \x7b"] (by simp) hhead
    have hitem : itemsLines inner (enclose (m :: modules) items) =
        [.whole (cbox indent (("pub " :: ["mod ", m, " \x7b"]).flatMap word ++
          (hardbreak 0 ++ innerLines (itemsLines inner (enclose modules items)))) ++
          word "\x7d")] := by
      have hbody : bodyLines (itemsLines inner (enclose modules items)) =
          hardbreak 0 ++ innerLines (itemsLines inner (enclose modules items)) := by
        simp [bodyLines, hne']
      rw [← hbody]
      simp [enclose, publicModule, itemsLines, Item.lines, outerLines, innerAttributeLines,
        Visibility.layout]
    rw [hitem]
    refine ⟨(WritesLines.single (l := .whole _) hblock).mono fun ts hts => ?_, by simp⟩
    obtain ⟨_, ⟨us, hT, rfl⟩, rfl⟩ := hts
    exact ⟨us, hT, rfl⟩

/-! ## Units -/

/-- **The unit of a schema.** -/
theorem writes_unit (inner : Inner) {s : Schema} (h : s.WellFormed) :
    WritesLines (innerAttributeLines inner.constant s.unit.attrs ++ itemsLines inner s.unit.items)
      fun ts => ∃ s' : Schema, s'.plain = s.plain ∧ ts = s'.tokens := by
  have hattrs : WritesLines (innerAttributeLines inner.constant s.unit.attrs) (· = unitAttributes) := by
    have hdoc := WritesLines.single (writes_unitDoc inner.constant)
    have hsilence := WritesLines.single (writes_silence inner.constant)
    exact (hdoc.append hsilence).mono fun ts ⟨_, _, ha, hb, hts⟩ => by rw [hts, ha, hb]; rfl
  have hsplit : itemsLines inner s.members =
      itemsLines inner (s.imports.map fun path => .use (importOf path)) ++ s.struct.lines inner := by
    simp [Schema.members, Schema.itemsLines_append, itemsLines, Item.lines]
  have hmembers := (writes_imports inner h.imports).append (writes_struct inner h)
  rw [← hsplit] at hmembers
  have hne : itemsLines inner s.members ≠ [] := by
    rw [hsplit]
    simp [Schema.struct, newStruct, StructDecl.lines]
  obtain ⟨hitems, -⟩ := writes_enclose inner hmembers hne h.modules
  refine (hattrs.append hitems).mono fun ts hts => ?_
  obtain ⟨_, _, rfl, ⟨_, ⟨_, _, rfl, ⟨fs', hfs, rfl⟩, rfl⟩, rfl⟩, rfl⟩ := hts
  refine ⟨{ s with fields := fs' }, ?_, rfl⟩
  simp only [Schema.plain, hfs]

/-- The lines of the unit. -/
def Schema.lines (s : Schema) : List Line :=
  let inner := Inner.upTo innerDepth
  innerAttributeLines inner.constant s.unit.attrs ++ itemsLines inner s.unit.items

/-- The text of a schema is its lines from the cursor of a broken box on. -/
theorem Schema.text_eq (s : Schema) :
    s.text.toList = fill ⟨0, margin, 0, [.broken 0 true]⟩ (lineList s.lines ++ [.closing]) := by
  have henter := @enter_of_hardbreak .initial (Int.le_refl _) 0 true
    ["//!", "Generated by typeforge"] 0 (lineList s.lines.tail ++ [.closing])
  have hlines : lineList s.lines = ["//!", "Generated by typeforge"].flatMap word ++
      (hardbreak 0 ++ lineList s.lines.tail) := rfl
  have hlayout : s.unit.layout = .opening 0 true :: (lineList s.lines ++ [.closing]) := rfl
  rw [text, SourceUnit.text, render, String.toList_ofList, hlayout, fill, hlines]
  simp only [List.append_assoc] at henter ⊢
  rw [henter]
  rfl

/-- The text of a schema starts with a comment. -/
theorem Schema.text_start (s : Schema) : ∃ cs, s.text.toList = '/' :: cs := by
  rw [s.text_eq]
  exact ⟨_, rfl⟩

/-- **The text of a schema** is scanned into the tokens of the schema, with commas in the brackets
of types where a line was broken. -/
theorem Schema.scans_text {s : Schema} (h : s.WellFormed) :
    ∃ s' : Schema, s'.plain = s.plain ∧ Scans [] s.text.toList (TokenTree.flatAll s'.tokens) := by
  let c : Cursor := ⟨0, margin, 0, [.broken 0 true]⟩
  have hv : c.Valid := ⟨Int.le_refl _, Int.le_refl _, _, _, rfl, rfl⟩
  obtain ⟨_, cs, htext, ⟨s', hs, rfl⟩, hspells⟩ :=
    (writes_unit (Inner.upTo innerDepth) h).document (List.cons_ne_nil _ _) hv ⟨_, _, rfl⟩ [.closing]
  refine ⟨s', hs, ?_⟩
  have hend : Scans [] ['\n'] [] := .separator (by decide) .nil
  have := hspells [] ['\n'] [] ⟨'\n', rfl, rfl⟩ hend
  rw [List.append_nil] at this
  rw [s.text_eq, Schema.lines, htext]
  exact this

end TypeFoundry.Synthesis
