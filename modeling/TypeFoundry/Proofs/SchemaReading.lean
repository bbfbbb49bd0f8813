import TypeFoundry.Proofs.Readers
import TypeFoundry.Proofs.SchemaText

/-!
# Reading a schema's tokens

The tokens of a well-formed schema are read as its unit (`Schema.unitBody_tokens`), so the text of a
schema is read as the unit of a schema that differs at most in commas inside angle brackets
(`Schema.read_text`).
-/

set_option autoImplicit false

namespace TypeFoundry.Synthesis

open Source Source.Reader

/-! ## Types -/

/-- The tokens start with a comma or a closing angle bracket. -/
def ClosesType (ts : Tokens) : Prop := ∃ c j us, ts = .mark c j :: us ∧ (c = ',' ∨ c = '>')

theorem ClosesType.startsOp {ts : Tokens} (h : ClosesType ts) {text : String} {x : Char}
    {xs : List Char} (hs : text.toList = x :: xs) (hx : x ≠ ',' ∧ x ≠ '>') :
    Reader.startsOp text ts = false := by
  obtain ⟨c, j, us, rfl, rfl | rfl⟩ := h
  · exact startsOp_mark hs hx.1 j us
  · exact startsOp_mark hs hx.2 j us

theorem ClosesType.startsGroup {ts : Tokens} (h : ClosesType ts) (d : Delimiter) :
    Reader.startsGroup d ts = false := by
  obtain ⟨c, j, us, rfl, -⟩ := h
  rfl

/-- Words that a type can start with. -/
def startsTypeName (w : String) : Bool := !isReserved w || ["super", "self", "Self", "crate"].contains w

theorem startsPath_word (w : String) (ts : Tokens) :
    startsPath (.word w :: ts) = startsTypeName w := rfl

/-- A word that a type starts with is none of the words that types of another form start with. -/
theorem ne_of_startsTypeName {w v : String} (h : startsTypeName w = true)
    (hv : startsTypeName v = false) : (w == v) = false := by
  rw [beq_eq_false_iff_ne]
  rintro rfl
  rw [h] at hv
  cases hv

section

variable (constant : Reader Unit)

/-- A type that starts with a name is the path that is read there. -/
theorem ty_of_pathTy {n : Nat} {w : String} {ts rest : Tokens} {rooted : Bool}
    {segments : List Segment} (hw : startsTypeName w = true)
    (hp : pathTy constant n (.word w :: ts) = .ok (.path rooted segments, rest))
    (hrest : ClosesType rest) :
    ty constant (n + 1) true (.word w :: ts) = .ok (.path rooted segments, rest) := by
  have hplus : startsOp "+" rest = false := hrest.startsOp rfl (by decide)
  have hne : ∀ v, startsTypeName v = false → (w == v) = false := fun v => ne_of_startsTypeName hw
  simp [ty, binder, startsPath_word, hw, hp, hplus, hne "for" (by decide), hne "fn" (by decide),
    hne "unsafe" (by decide), hne "extern" (by decide)]

theorem callArguments_closed {n : Nat} {segments : List Segment} {rest : Tokens}
    (hrest : ClosesType rest) :
    callArguments constant (n + 1) segments rest = .ok (segments, rest) := by
  have hcolons : startsOp "::" rest = false := hrest.startsOp rfl (by decide)
  simp only [callArguments, run_bind, run_rest, hrest.startsGroup, hcolons]
  rcases segments.getLast? with _ | (name | _ | _)
  · rfl
  · simp
  · rfl
  · rfl

theorem pathTy_of_path {n : Nat} {w : String} {ts rest : Tokens} {segments : List Segment}
    (hp : path constant (n + 1) false (.word w :: ts) = .ok ((false, segments), rest))
    (hrest : ClosesType rest) :
    pathTy constant (n + 2) (.word w :: ts) = .ok (.path false segments, rest) := by
  have hbang : startsOp "!" rest = false := hrest.startsOp rfl (by decide)
  simp [pathTy, hp, callArguments_closed constant hrest, hbang]

theorem path_of_segments {n : Nat} {w : String} {ts us rest : Tokens} {s : Segment}
    {segments : List Segment} (hs : segment constant n false (.word w :: ts) = .ok (s, us))
    (hmore : moreSegments constant n false us = .ok (segments, rest)) :
    path constant (n + 1) false (.word w :: ts) = .ok ((false, s :: segments), rest) := by
  simp [path, run_operator?_of_not, hs, hmore]

/-- No type arguments come next. -/
def NoArguments (ts : Tokens) : Prop :=
  startsOp "<" ts = false ∧ (startsOp "::" ts = true → startsOp "<" (behind (behind ts)) = false)

theorem ClosesType.noArguments {ts : Tokens} (h : ClosesType ts) : NoArguments ts := by
  refine ⟨h.startsOp rfl (by decide), fun hc => ?_⟩
  rw [h.startsOp rfl (by decide)] at hc
  cases hc

theorem segment_plain {n : Nat} {w : String} {ts : Tokens} (hw : TypePath.isSegment w = true)
    (hts : NoArguments ts) :
    segment constant (n + 1) false (.word w :: ts) = .ok (.plain w, ts) := by
  obtain ⟨hangle, hcolons⟩ := hts
  by_cases hbare : w = "super" ∨ w = "self" ∨ w = "crate" ∨ w = "try"
  · have hname : segmentName (.word w :: ts) = .ok ((w, true), ts) := by
      simp [segmentName, hbare, anyWord]
    simp [Reader.segment, hname]
  · have hreserved : isReserved w = false ∨ w ∈ ["Self"] := by
      simp only [TypePath.isSegment, Bool.or_eq_true, Bool.not_eq_true'] at hw
      refine hw.symm.imp_right fun h => ?_
      simp only [segmentWords, List.contains_iff_mem, List.mem_cons, List.not_mem_nil,
        or_false] at h
      obtain rfl | rfl | rfl | rfl | rfl := h <;> simp_all
    have hname : segmentName (.word w :: ts) = .ok ((w, false), ts) := by
      simp [segmentName, hbare, run_nameOr _ hreserved]
    cases hc : startsOp "::" ts with
    | false => simp [Reader.segment, hname, hangle, hc]
    | true => simp [Reader.segment, hname, hangle, hc, hcolons hc]

/-- The tokens of names with two colons in front of each. -/
def colonNames (names : List String) : Tokens :=
  names.flatMap fun w => [.mark ':' true, .mark ':' false, .word w]

theorem namesTokens_cons (w : String) (names : List String) :
    namesTokens (w :: names) = .word w :: colonNames names := by
  induction names generalizing w with
  | nil => rfl
  | cons v names ih =>
    have := ih v
    simp only [namesTokens, List.map_cons, joinedBy, colonNames, List.flatMap_cons] at this ⊢
    rw [this]
    rfl

theorem noArguments_colonNames (names : List String) {rest : Tokens} (hrest : ClosesType rest) :
    NoArguments (colonNames names ++ rest) := by
  cases names with
  | nil => exact hrest.noArguments
  | cons w names => exact ⟨rfl, fun _ => rfl⟩

theorem moreSegments_names {names : List String} (hw : ∀ w ∈ names, TypePath.isSegment w = true)
    {rest : Tokens} (hrest : ClosesType rest) {n : Nat} (hn : names.length < n) :
    moreSegments constant n false (colonNames names ++ rest) = .ok (names.map .plain, rest) := by
  induction names generalizing n with
  | nil =>
    obtain ⟨m, rfl⟩ : ∃ m, n = m + 1 := ⟨n - 1, by omega⟩
    have hcolons : startsOp "::" rest = false := hrest.startsOp rfl (by decide)
    simp [moreSegments, colonNames, hcolons]
  | cons w names ih =>
    obtain ⟨m, rfl⟩ : ∃ m, n = m + 2 := ⟨n - 2, by simp at hn; omega⟩
    have ih := ih (fun v hv => hw v (List.mem_cons_of_mem _ hv)) (n := m + 1)
      (by simp at hn; omega)
    have hsegment := segment_plain constant (n := m) (hw w List.mem_cons_self)
      (noArguments_colonNames names hrest)
    have hcons : colonNames (w :: names) ++ rest =
        .mark ':' true :: .mark ':' false :: .word w :: (colonNames names ++ rest) := by
      simp [colonNames]
    rw [hcons, moreSegments]
    simp [startsOp, afterMarks, behind, operator, hsegment, ih]

/-- **A path of names** is read as the type that it denotes. -/
theorem ty_names {w : String} {names : List String} (hstart : startsTypeName w = true)
    (hw : ∀ v ∈ w :: names, TypePath.isSegment v = true) {rest : Tokens} (hrest : ClosesType rest)
    {n : Nat} (hn : names.length + 4 < n) :
    ty constant n true (namesTokens (w :: names) ++ rest) =
      .ok (.ofNames false (w :: names), rest) := by
  obtain ⟨m, rfl⟩ : ∃ m, n = m + 5 := ⟨n - 5, by omega⟩
  rw [namesTokens_cons, List.cons_append]
  have hsegment := segment_plain constant (n := m + 1) (hw w List.mem_cons_self)
    (noArguments_colonNames names hrest)
  have hmore := moreSegments_names constant (fun v hv => hw v (List.mem_cons_of_mem _ hv)) hrest
    (n := m + 2) (by omega)
  exact ty_of_pathTy constant hstart
    (pathTy_of_path constant (path_of_segments constant hsegment hmore) hrest) hrest

/-- A type between angle brackets is read as an argument. -/
theorem genericArg_of_ty {n : Nat} {w : String} {ts rest : Tokens} {t : Ty}
    (hw : startsTypeName w = true) (ht : ty constant n true (.word w :: ts) = .ok (t, rest))
    (hrest : ClosesType rest) :
    genericArg constant (n + 1) (.word w :: ts) = .ok (.type t, rest) := by
  have hne : ∀ v, startsTypeName v = false → w ≠ v := fun v hv =>
    beq_eq_false_iff_ne.1 (ne_of_startsTypeName hw hv)
  have hliteral : startsLiteral (.word w :: ts) = false := by
    unfold startsLiteral
    split
    · cases ‹TokenTree.word w :: ts = _›
    · rename_i h
      exact absurd (TokenTree.word.inj (List.cons.inj h).1) (hne "true" (by decide))
    · rename_i h
      exact absurd (TokenTree.word.inj (List.cons.inj h).1) (hne "false" (by decide))
    · rfl
  have hequal := run_operator?_of_not (@ClosesType.startsOp _ hrest "=" _ _ rfl (by decide))
  have hcolon := run_operator?_of_not (@ClosesType.startsOp _ hrest ":" _ _ rfl (by decide))
  simp only [genericArg, run_bind, run_rest, hliteral, startsLifetime, startsNegative,
    startsGroup_word, Bool.false_and, Bool.or_self, Bool.false_eq_true, ↓reduceIte, ht]
  split
  · rfl
  · simp [hequal, hcolon]
  · rfl

/-- What stands between angle brackets, with a comma behind it or not. -/
theorem angled_of_ty {n : Nat} {w : String} {ts : Tokens} {t : Ty} (hw : startsTypeName w = true)
    (ht : ∀ rest, ClosesType rest → ty constant n true (.word w :: (ts ++ rest)) = .ok (t, rest))
    (comma : Bool) (rest : Tokens) :
    angled constant (n + 2) (.mark '<' false :: .word w :: (ts ++
      ((if comma then [.mark ',' false] else []) ++ .mark '>' true :: rest))) =
        .ok (([.type t], comma), rest) := by
  have harg : ∀ rest, ClosesType rest →
      genericArg constant (n + 1) (.word w :: (ts ++ rest)) = .ok (.type t, rest) :=
    fun rest hrest => genericArg_of_ty constant hw (ht rest hrest) hrest
  have hlist : angleList (genericArg constant (n + 1)) (.word w :: (ts ++
      ((if comma then [.mark ',' false] else []) ++ .mark '>' true :: rest))) =
        .ok (([.type t], comma), .mark '>' true :: rest) := by
    cases comma with
    | false =>
      have := harg (.mark '>' true :: rest) ⟨'>', true, rest, rfl, .inr rfl⟩
      simp [angleList, listUntil, this, startsOp, afterMarks]
    | true =>
      have := harg (.mark ',' false :: .mark '>' true :: rest) ⟨',', false, _, rfl, .inl rfl⟩
      simp [angleList, listUntil, this, startsOp, afterMarks, operator]
  simp [angled, operator, afterMarks, hlist]

/-- **A type constructor applied to a type.** -/
theorem ty_angled (name : String) {us : Tokens} {t : Ty} {N : Nat}
    (hname : isReserved name = false) (hus : ∃ w ts, us = .word w :: ts ∧ startsTypeName w = true)
    (ht : ∀ n > N, ∀ rest, ClosesType rest → ty constant n true (us ++ rest) = .ok (t, rest))
    (comma : Bool) :
    ∀ n > N + 6, ∀ rest, ClosesType rest →
      ty constant n true (angledTokens name us comma ++ rest) =
        .ok (.path false [.angled name false [.type t] comma], rest) := by
  intro n hn rest hrest
  obtain ⟨w, ts, rfl, hw⟩ := hus
  obtain ⟨m, rfl⟩ : ∃ m, n = m + 6 := ⟨n - 6, by omega⟩
  have hangled := angled_of_ty constant hw (ht m (by omega)) comma rest
  have hne : ∀ v, isReserved v = true → name ≠ v := by
    rintro v hv rfl
    rw [hname] at hv
    cases hv
  have hstart : startsTypeName name = true := by simp [startsTypeName, hname]
  have htokens : angledTokens name (.word w :: ts) comma ++ rest = .word name :: .mark '<' false ::
      .word w :: (ts ++ ((if comma then [.mark ',' false] else []) ++ .mark '>' true :: rest)) := by
    simp [angledTokens]
  rw [htokens]
  have hsegment : segment constant (m + 3) false (.word name :: .mark '<' false ::
      .word w :: (ts ++ ((if comma then [.mark ',' false] else []) ++ .mark '>' true :: rest))) =
      .ok (.angled name false [.type t] comma, rest) := by
    simp [Reader.segment, segmentName, hne "super" (by decide), hne "self" (by decide),
        hne "crate" (by decide), hne "try" (by decide), run_nameOr _ (.inl hname), startsOp, afterMarks, run_operator?, hangled]
  have hmore : moreSegments constant (m + 3) false rest = .ok ([], rest) := by
    have := @moreSegments_names constant [] (by simp) rest hrest (m + 3) (Nat.succ_pos _)
    simpa [colonNames] using this
  exact ty_of_pathTy constant hstart
    (pathTy_of_path constant (path_of_segments constant hsegment hmore) hrest) hrest

end

theorem isSegment_of_isPathName {w : String} (h : isPathName w = true) :
    TypePath.isSegment w = true := (Bool.and_eq_true_iff.1 h).2

theorem isReserved_of_isItemName {w : String} (h : isItemName w = true) : isReserved w = false := by
  simpa using (Bool.and_eq_true_iff.1 h).2

theorem sizes_colonNames (names : List String) :
    TokenTree.sizes (colonNames names) = 3 * names.length := by
  induction names with
  | nil => rfl
  | cons w names ih =>
    simp only [colonNames, List.flatMap_cons, TokenTree.sizes_append] at ih ⊢
    simp [ih, TokenTree.sizes, TokenTree.size]
    omega

/-- **The type of a field** is read as it is. -/
theorem anyTy_tokens (item : Reader Unit) {v : ValueType} (h : v.WellFormed) {rest : Tokens}
    (hrest : ClosesType rest) : anyTy item (v.tokens ++ rest) = .ok (v.ty, rest) := by
  cases v with
  | primitive name =>
    have hname := isReserved_of_isItemName h
    exact @ty_names _ name [] (by simp [startsTypeName, hname])
      (by simp [TypePath.isSegment, hname]) _ hrest _ (by simp [depth]; omega)
  | reference target outer inner =>
    have hwords : ∀ v ∈ "crate" :: target.segments, TypePath.isSegment v = true := by
      intro v hv
      obtain rfl | hv := List.mem_cons.1 hv
      · decide
      · exact isSegment_of_isPathName (h v hv)
    have hpath : ∀ n > target.segments.length + 4, ∀ rest, ClosesType rest →
        ty (constant item) n true (namesTokens target.crateSegments ++ rest) =
          .ok (.ofNames false target.crateSegments, rest) :=
      fun n hn rest hrest => ty_names (constant item) (by decide) hwords hrest hn
    have hbox := ty_angled (constant item) "Box" (by decide)
      ⟨"crate", _, namesTokens_cons _ _, by decide⟩ hpath inner
    have hoption := ty_angled (constant item) "Option" (by decide)
      ⟨"Box", _, rfl, by decide⟩ hbox outer
    refine hoption _ ?_ rest hrest
    have hnames : TokenTree.sizes (namesTokens target.crateSegments) = 1 + 3 * target.segments.length := by
      rw [TypePath.crateSegments, namesTokens_cons, TokenTree.sizes, sizes_colonNames]
      rfl
    simp only [ValueType.tokens, angledTokens, depth, List.cons_append, TokenTree.sizes_append,
      TokenTree.sizes, TokenTree.size, hnames]
    omega

/-! ## Attributes and fields -/

section

variable (item : Reader Unit)

/-- A literal is a constant. -/
theorem constant_literal (written : String) : constant item [.literal written] = .ok ((), []) := rfl

theorem metaContent_doc (written : String) :
    metaContent (constant item) [.word "doc", .mark '=' false, .literal written] =
      .ok (.value ⟨false, ["doc"]⟩ [.literal written], []) := by
  have hpath : ∀ ts, namePath (.word "doc" :: .mark '=' false :: ts) =
      .ok (⟨false, ["doc"]⟩, .mark '=' false :: ts) := fun ts => by
    have hname : nameOr ["super", "self", "Self", "crate", "try"] (.word "doc" :: .mark '=' false :: ts) = .ok ("doc", .mark '=' false :: ts) :=
      run_nameOr _ (.inl (by decide)) _
    simp [namePath, nameList, run_operator?, afterMarks, hname]
  simp [metaContent, hpath, run_operator?, afterMarks, spelled, constant_literal]

/-- The name of an attribute in front of a list in parentheses. -/
theorem metaContent_call {w : String} (hw : isReserved w = false) (inside : Tokens) :
    metaContent (constant item) [.word w, .group .paren inside] =
      .ok (.call ⟨false, [w]⟩ .paren inside, []) := by
  have hunsafe : w ≠ "unsafe" := by
    rintro rfl
    cases hw
  have hname := run_nameOr ["super", "self", "Self", "crate", "try"] (.inl hw)
    [.group .paren inside]
  have hpath : namePath [.word w, .group .paren inside] =
      .ok (⟨false, [w]⟩, [.group .paren inside]) := by
    simp [namePath, nameList, run_operator?_of_not, hname]
  simp [metaContent, hpath, hunsafe, anyGroup]

theorem attributes_word (w : String) (ts : Tokens) :
    attributes item (.word w :: ts) = .ok ([], .word w :: ts) := by
  simp [attributes, outerAttributes, manyWhile]

/-- One attribute in front of a word. -/
theorem attributes_outer {inside : Tokens} {content : Meta} (w : String) (ts : Tokens)
    (h : metaContent (constant item) inside = .ok (content, [])) :
    attributes item (.mark '#' false :: .group .bracket inside :: .word w :: ts) =
      .ok ([⟨false, content⟩], .word w :: ts) := by
  have hsizes : ∃ n, TokenTree.sizes (.mark '#' false :: .group .bracket inside :: .word w :: ts) = n + 1 :=
        Nat.exists_eq_add_one_of_ne_zero (by simp [TokenTree.sizes, TokenTree.size])
  obtain ⟨n, hn⟩ := hsizes
  have hgroup := run_group (d := .bracket) h (.word w :: ts)
  simp [attributes, outerAttributes, hn, manyWhile, outerAttribute, startsOp, operator, afterMarks,
    hgroup]

/-- **A field behind its attributes.** -/
theorem field_reads {name : String} {attrs : List Attribute} {head type rest : Tokens} {t : Ty}
    (hname : isReserved name = false)
    (hattrs : ∀ ts, attributes item (head ++ .word "pub" :: ts) = .ok (attrs, .word "pub" :: ts))
    (ht : anyTy item (type ++ rest) = .ok (t, rest)) :
    Reader.field item (head ++ .word "pub" :: .word name :: .mark ':' false :: (type ++ rest)) =
      .ok ({ publicField name t with attrs := attrs }, rest) := by
  have hvisibility : visibility (.word "pub" :: .word name :: .mark ':' false :: (type ++ rest)) =
      .ok (.everywhere, .word name :: .mark ':' false :: (type ++ rest)) := by
    simp [visibility]
  have hnameOr := run_nameOr ["_"] (.inl hname) (.mark ':' false :: (type ++ rest))
  simp [Reader.field, hattrs, hvisibility, hnameOr, operator, afterMarks, ht, publicField]

/-- Phrases with a comma behind each are read in order. -/
theorem listUntil_commas {α : Type} {r : Reader α} {items : List (Tokens × α)} (hne : items ≠ [])
    (hr : ∀ p ∈ items, ∀ ts, r (p.1 ++ .mark ',' false :: ts) = .ok (p.2, .mark ',' false :: ts))
    {fuel : Nat} (hf : items.length ≤ fuel) :
    listUntil (·.isEmpty) "," r fuel (items.flatMap fun p => p.1 ++ [.mark ',' false]) =
      .ok ((items.map Prod.snd, true), []) := by
  induction items generalizing fuel with
  | nil => exact absurd rfl hne
  | cons p items ih =>
    obtain ⟨f, rfl⟩ : ∃ f, fuel = f + 1 := ⟨fuel - 1, by simp at hf; omega⟩
    have hp := hr p List.mem_cons_self
    cases items with
    | nil => simp [listUntil, hp, operator, afterMarks]
    | cons q items =>
      have ih := @ih (by simp) (fun p hp => hr p (List.mem_cons_of_mem _ hp)) f (by simpa using hf)
      have hsplit : ((p :: q :: items).flatMap fun p => p.1 ++ [TokenTree.mark ',' false]) =
          p.1 ++ .mark ',' false :: ((q :: items).flatMap fun p => p.1 ++ [.mark ',' false]) := by
        simp
      have hnonempty : ((q :: items).flatMap fun p => p.1 ++ [TokenTree.mark ',' false]).isEmpty = false := by
        simp
      rw [hsplit]
      generalize ((q :: items).flatMap fun p => p.1 ++ [TokenTree.mark ',' false]) = tail at ih hnonempty
      have htail : tail ≠ [] := by simpa using hnonempty
      simp [listUntil, hp, operator, afterMarks, ih, htail]

/-- The same in a list up to the end of a group. -/
theorem commaList_commas {α : Type} {r : Reader α} {items : List (Tokens × α)} (hne : items ≠ [])
    (hr : ∀ p ∈ items, ∀ ts, r (p.1 ++ .mark ',' false :: ts) = .ok (p.2, .mark ',' false :: ts)) :
    Reader.commaList r (items.flatMap fun p => p.1 ++ [.mark ',' false]) =
      .ok ((items.map Prod.snd, true), []) := by
  have hlength : items.length ≤
      TokenTree.sizes (items.flatMap fun p => p.1 ++ [TokenTree.mark ',' false]) := by
    clear hr hne
    induction items with
    | nil => exact Nat.zero_le _
    | cons p items ih =>
      rw [List.flatMap_cons, TokenTree.sizes_append, TokenTree.sizes_append]
      simp only [List.length_cons, TokenTree.sizes, TokenTree.size]
      omega
  have hnonempty : (items.flatMap fun p => p.1 ++ [TokenTree.mark ',' false]).isEmpty = false := by
    cases items with
    | nil => exact absurd rfl hne
    | cons p items => simp
  rw [Reader.commaList, hnonempty, if_neg (by simp)]
  exact listUntil_commas hne hr (by omega)

/-- The tokens of the fields up to their commas, and the fields. -/
def fieldPieces (fs : List SchemaField) : List (Tokens × Field) :=
  (docTokens " UUID, stored as its 128-bit value." false ++
    [.word "pub", .word identityField, .mark ':' false, .word "u128"], Schema.identity) ::
  ([.word "pub", .word displayNameField, .mark ':' false, .word "String"], Schema.displayName) ::
  fs.map fun f => (.word "pub" :: .word f.name :: .mark ':' false :: f.value.tokens, f.field)

theorem fieldPieces_tokens (s : Schema) :
    (fieldPieces s.fields).flatMap (fun p => p.1 ++ [TokenTree.mark ',' false]) = s.fieldsTokens := by
  have hfields : (s.fields.map SchemaField.tokens).flatten = s.fields.flatMap fun f =>
      (.word "pub" :: .word f.name :: .mark ':' false :: f.value.tokens) ++ [.mark ',' false] := rfl
  rw [Schema.fieldsTokens, hfields]
  simp [fieldPieces, fieldTokens, List.flatMap_map]

theorem fieldPieces_fields (fs : List SchemaField) :
    (fieldPieces fs).map Prod.snd = Schema.commonFields ++ fs.map SchemaField.field := by
  simp [fieldPieces, Schema.commonFields, Function.comp_def]

theorem field_fieldPieces {fs : List SchemaField} (h : ∀ f ∈ fs, f.WellFormed) :
    ∀ p ∈ fieldPieces fs, ∀ ts, Reader.field item (p.1 ++ .mark ',' false :: ts) =
      .ok (p.2, .mark ',' false :: ts) := by
  intro p hp ts
  have hclose : ClosesType (.mark ',' false :: ts) := ⟨_, _, _, rfl, .inl rfl⟩
  have hprimitive : ∀ name, isItemName name = true → anyTy item (.word name :: .mark ',' false :: ts) =
      .ok (.ofNames false [name], .mark ',' false :: ts) := fun name hname =>
    @anyTy_tokens item (.primitive name) hname _ hclose
  simp only [fieldPieces, List.mem_cons, List.mem_map] at hp
  obtain rfl | rfl | ⟨f, hf, rfl⟩ := hp
  · have hattrs : ∀ us, attributes item
        (docTokens " UUID, stored as its 128-bit value." false ++ .word "pub" :: us) =
          .ok (Schema.identity.attrs, .word "pub" :: us) := fun us =>
      attributes_outer item "pub" us (metaContent_doc item _)
    have := @field_reads item identityField _ _ [.word "u128"] _ _ (by decide) hattrs
      (hprimitive "u128" (by decide))
    simpa [Schema.identity, publicField] using this
  · exact @field_reads item displayNameField _ [] [.word "String"] _ _ (by decide)
      (fun us => attributes_word item "pub" us) (hprimitive "String" (by decide))
  · have hf := h f hf
    have := @field_reads item f.name _ [] _ _ _ (isReserved_of_isItemName hf.name)
      (fun us => attributes_word item "pub" us) (anyTy_tokens item hf.value hclose)
    simpa [SchemaField.field, publicField] using this

/-- **The fields of a struct.** -/
theorem namedFields_tokens {s : Schema} (h : s.WellFormed) (rest : Tokens) :
    namedFields item (.group .brace s.fieldsTokens :: rest) =
      .ok (Schema.commonFields ++ s.fields.map SchemaField.field, rest) := by
  have hne : fieldPieces s.fields ≠ [] := List.cons_ne_nil _ _
  have hcomma := commaList_commas hne (field_fieldPieces item h.fields)
  rw [← fieldPieces_tokens, namedFields, run_map, run_group hcomma, fieldPieces_fields]

end

/-! ## Items -/

/-- From the tokens, whatever follows them, the item is read when items may nest deeper than
`depth`. -/
def ReadsItem (depth : Nat) (ts : Tokens) (i : Item) : Prop :=
  ∀ n > depth, ∀ rest, itemFrom n (ts ++ rest) = .ok (i, rest)

theorem visibility_pub (w : String) (ts : Tokens) :
    visibility (.word "pub" :: .word w :: ts) = .ok (.everywhere, .word w :: ts) := by
  simp [visibility]

theorem visibility_word {w : String} (hw : w ≠ "pub") (ts : Tokens) :
    visibility (.word w :: ts) = .ok (.inherited, .word w :: ts) := by
  simp [visibility, hw]

theorem genericParams_group (item : Reader Unit) (d : Delimiter) (inside ts : Tokens) :
    genericParams item (.group d inside :: ts) = .ok ([], .group d inside :: ts) := by
  simp [genericParams, run_operator?_of_not]

theorem structDecl_tokens (item : Reader Unit) (attrs : List Attribute) {s : Schema}
    (h : s.WellFormed) (rest : Tokens) :
    structDecl item attrs (s.declTokens ++ rest) = .ok ({ s.struct with attrs := attrs }, rest) := by
  have hfields := namedFields_tokens item h rest
  have hname := fun ts => run_name (isReserved_of_isItemName h.name) ts
  simp [Schema.declTokens, structDecl, visibility_pub, hname, genericParams_group, whereClause,
    hfields, Schema.struct, newStruct, Generics.none]

/-- **The struct of a schema.** -/
theorem itemFrom_struct {s : Schema} (h : s.WellFormed) :
    ReadsItem 0 s.structTokens (.struct s.struct) := by
  intro n hn rest
  obtain ⟨m, rfl⟩ : ∃ m, n = m + 1 := ⟨n - 1, by omega⟩
  have hattrs := fun item ts => attributes_outer item "pub" ts
    (metaContent_call item (w := "derive") (by decide) [.word "Default"])
  have hstruct := fun item attrs => structDecl_tokens item attrs h rest
  simp only [Schema.declTokens, List.cons_append, List.nil_append] at hstruct
  simp [Schema.structTokens, Schema.declTokens, itemFrom, hattrs, visibility_pub, hstruct]
  rfl

theorem nameOr_useName {w : String} (h : isUseName w = true) (ts : Tokens) :
    nameOr ["self", "super", "crate", "try"] (.word w :: ts) = .ok (w, ts) := by
  refine run_nameOr _ ?_ ts
  simp only [isUseName, Bool.and_eq_true, bne_iff_ne, ne_eq] at h
  have hsegment := isSegment_of_isPathName h.1
  simp only [TypePath.isSegment, Bool.or_eq_true, Bool.not_eq_true'] at hsegment
  refine hsegment.symm.imp_right fun hw => ?_
  simp only [segmentWords, List.contains_iff_mem, List.mem_cons, List.not_mem_nil, or_false] at hw ⊢
  tauto

theorem useTree_tokens {path : List String} (h : ∀ w ∈ path, isUseName w = true) (w : String)
    (hw : isUseName w = true) (rest : Tokens) {n : Nat} (hn : path.length + 1 < n) :
    useTree n (.word w :: (importTokens path ++ .mark ';' false :: rest)) =
      .ok (.path w (path.foldr .path .glob), .mark ';' false :: rest) := by
  induction path generalizing w n with
  | nil =>
    obtain ⟨m, rfl⟩ : ∃ m, n = m + 2 := ⟨n - 2, by simp at hn; omega⟩
    simp [useTree, importTokens, run_operator?, afterMarks, nameOr_useName hw]
  | cons v path ih =>
    obtain ⟨m, rfl⟩ : ∃ m, n = m + 1 := ⟨n - 1, by omega⟩
    have ih := ih (fun u hu => h u (List.mem_cons_of_mem _ hu)) v (h v List.mem_cons_self) (n := m)
      (by simp at hn; omega)
    simp [useTree, importTokens, run_operator?, afterMarks, nameOr_useName hw, ih]

theorem length_le_sizes_importTokens (path : List String) :
    path.length ≤ TokenTree.sizes (importTokens path) := by
  induction path with
  | nil => exact Nat.zero_le _
  | cons w path ih =>
    rw [importTokens, TokenTree.sizes_append]
    simp only [List.length_cons, TokenTree.sizes, TokenTree.size]
    omega

/-- **An import.** -/
theorem itemFrom_use {path : List String} (h : ∀ w ∈ path, isUseName w = true) :
    ReadsItem 0 (useTokens path) (.use (importOf path)) := by
  intro n hn rest
  obtain ⟨m, rfl⟩ : ∃ m, n = m + 1 := ⟨n - 1, by omega⟩
  have hlength := length_le_sizes_importTokens path
  have hdepth : path.length + 1 <
      depth (.word "crate" :: (importTokens path ++ .mark ';' false :: rest)) := by
    simp only [depth, TokenTree.sizes, TokenTree.size, TokenTree.sizes_append]
    omega
  have htree := useTree_tokens h "crate" (by decide) rest hdepth
  simp [useTokens, itemFrom, attributes_word, visibility_word, useDecl, run_operator?, afterMarks,
    htree, operator]
  rfl

/-- Items one after another are read as they are. -/
theorem manyWhile_items {r : Reader Item} {pieces : List (Tokens × Item)}
    (hr : ∀ p ∈ pieces, p.1 ≠ [] ∧ ∀ rest, r (p.1 ++ rest) = .ok (p.2, rest)) {fuel : Nat}
    (hf : pieces.length < fuel) :
    manyWhile (fun ts => !ts.isEmpty) r fuel (pieces.flatMap Prod.fst) =
      .ok (pieces.map Prod.snd, []) := by
  induction pieces generalizing fuel with
  | nil =>
    obtain ⟨f, rfl⟩ : ∃ f, fuel = f + 1 := ⟨fuel - 1, by omega⟩
    simp [manyWhile]
  | cons p pieces ih =>
    obtain ⟨f, rfl⟩ : ∃ f, fuel = f + 1 := ⟨fuel - 1, by omega⟩
    obtain ⟨hne, hp⟩ := hr p List.mem_cons_self
    have ih := @ih (fun q hq => hr q (List.mem_cons_of_mem _ hq)) f (by simpa using hf)
    simp [manyWhile, hne, hp, ih]

/-- The tokens of the items of the type's module, and the items. -/
def memberPieces (s : Schema) : List (Tokens × Item) :=
  s.imports.map (fun path => (useTokens path, .use (importOf path))) ++
    [(s.structTokens, .struct s.struct)]

theorem memberPieces_tokens (s : Schema) :
    (memberPieces s).flatMap Prod.fst = (s.imports.map useTokens).flatten ++ s.structTokens := by
  simp [memberPieces, List.flatMap_def, Function.comp_def]

theorem memberPieces_items (s : Schema) : (memberPieces s).map Prod.snd = s.members := by
  simp [memberPieces, Schema.members, Function.comp_def]

/-- The pieces are items that may nest as deep as the given number. -/
def ReadsItems (depth : Nat) (pieces : List (Tokens × Item)) : Prop :=
  ∀ p ∈ pieces, p.1 ≠ [] ∧ ReadsItem depth p.1 p.2

theorem readsItems_members {s : Schema} (h : s.WellFormed) : ReadsItems 0 (memberPieces s) := by
  intro p hp
  obtain hp | hp := List.mem_append.1 hp
  · obtain ⟨path, hpath, rfl⟩ := List.mem_map.1 hp
    exact ⟨by simp [useTokens], itemFrom_use (h.imports path hpath)⟩
  · obtain rfl := List.mem_singleton.1 hp
    exact ⟨by simp [Schema.structTokens], itemFrom_struct h⟩

theorem length_le_sizes_pieces {pieces : List (Tokens × Item)} {depth : Nat}
    (h : ReadsItems depth pieces) :
    pieces.length ≤ TokenTree.sizes (pieces.flatMap Prod.fst) := by
  induction pieces with
  | nil => exact Nat.zero_le _
  | cons p pieces ih =>
    have ih := ih fun q hq => h q (List.mem_cons_of_mem _ hq)
    have hp : 0 < TokenTree.sizes p.1 := by
      obtain ⟨ts, i⟩ := p
      obtain ⟨hne, -⟩ := h _ List.mem_cons_self
      cases ts with
      | nil => exact absurd rfl hne
      | cons t ts =>
        have : 0 < t.size := by cases t <;> simp [TokenTree.size]
        simp only [TokenTree.sizes]
        omega
    rw [List.flatMap_cons, TokenTree.sizes_append, List.length_cons]
    omega

/-- **Items** in braces are read in order. -/
theorem many_items {n depth : Nat} {pieces : List (Tokens × Item)} (h : ReadsItems depth pieces)
    (hn : depth < n) :
    many (itemFrom n) (pieces.flatMap Prod.fst) = .ok (pieces.map Prod.snd, []) :=
  manyWhile_items (fun p hp => ⟨(h p hp).1, (h p hp).2 n hn⟩)
    (Nat.lt_succ_of_le (length_le_sizes_pieces h))

/-- Nothing in the pieces belongs to what encloses them. -/
def NoInnerAttributes (ts : Tokens) : Prop :=
  (startsOp "#" ts && startsOp "!" (behind ts)) = false

theorem innerAttributes_none (item : Reader Unit) {ts : Tokens} (h : NoInnerAttributes ts) :
    innerAttributes (constant item) ts = .ok ([], ts) := by
  simp only [NoInnerAttributes] at h
  simp [innerAttributes, manyWhile, h]

/-- **A module.** -/
theorem itemFrom_module {m : String} (hm : isModuleName m = true) {pieces : List (Tokens × Item)}
    {depth : Nat} (h : ReadsItems depth pieces)
    (hattrs : NoInnerAttributes (pieces.flatMap Prod.fst)) :
    ReadsItem (depth + 1)
      [.word "pub", .word "mod", .word m, .group .brace (pieces.flatMap Prod.fst)]
      (publicModule m (pieces.map Prod.snd)) := by
  intro n hn rest
  obtain ⟨k, rfl⟩ : ∃ k, n = k + 1 := ⟨n - 1, by omega⟩
  have hname : isReserved m = false ∨ m ∈ ["try"] := by
    simpa using (Bool.and_eq_true_iff.1 hm).2
  have hitems := many_items (n := k) h (by omega)
  have hinner := fun item => innerAttributes_none item hattrs
  generalize pieces.flatMap Prod.fst = inside at *
  simp [itemFrom, attributes_word, visibility_pub, run_nameOr _ hname, run_operator?_of_not, group,
    hinner, hitems, publicModule]

theorem noInnerAttributes_members (s : Schema) :
    NoInnerAttributes ((memberPieces s).flatMap Prod.fst) := by
  rw [memberPieces_tokens]
  cases s.imports <;> rfl

theorem length_le_sizes_encloseTokens (modules : List String) (ts : Tokens) :
    modules.length ≤ TokenTree.sizes (encloseTokens modules ts) := by
  induction modules with
  | nil => exact Nat.zero_le _
  | cons m modules ih =>
    simp only [encloseTokens, TokenTree.sizes, TokenTree.size, List.length_cons]
    omega

/-- **The items of a schema**, in the modules around its type. -/
theorem readsItems_enclose {s : Schema} (h : s.WellFormed) {modules : List String}
    (hm : ∀ m ∈ modules, isModuleName m = true) :
    ∃ pieces, ReadsItems modules.length pieces ∧
      pieces.flatMap Prod.fst = encloseTokens modules ((memberPieces s).flatMap Prod.fst) ∧
      pieces.map Prod.snd = enclose modules s.members ∧
      (∀ p ∈ pieces, modules.length ≤ TokenTree.sizes p.1) ∧
      NoInnerAttributes (pieces.flatMap Prod.fst) := by
  induction modules with
  | nil =>
    exact ⟨memberPieces s, readsItems_members h, rfl, memberPieces_items s,
      fun _ _ => Nat.zero_le _, noInnerAttributes_members s⟩
  | cons m modules ih =>
    obtain ⟨pieces, hr, htokens, hitems, -, hattrs⟩ := ih fun v hv => hm v (List.mem_cons_of_mem _ hv)
    have hmodule := itemFrom_module (hm m List.mem_cons_self) hr hattrs
    rw [htokens, hitems] at hmodule
    refine ⟨[(encloseTokens (m :: modules) ((memberPieces s).flatMap Prod.fst),
      publicModule m (enclose modules s.members))], ?_, by simp, rfl, ?_, rfl⟩
    · intro p hp
      obtain rfl := List.mem_singleton.1 hp
      exact ⟨by simp [encloseTokens], hmodule⟩
    · intro p hp
      obtain rfl := List.mem_singleton.1 hp
      exact length_le_sizes_encloseTokens _ _

/-! ## Units -/

theorem innerAttribute_reads {item : Reader Unit} {inside : Tokens} {content : Meta} (j k : Bool)
    (h : metaContent (constant item) inside = .ok (content, [])) (ts : Tokens) :
    innerAttribute (constant item) (.mark '#' j :: .mark '!' k :: .group .bracket inside :: ts) =
      .ok (⟨true, content⟩, ts) := by
  have hgroup := run_group (d := .bracket) h ts
  simp [innerAttribute, operator, afterMarks, hgroup]

theorem innerAttributes_unit (item : Reader Unit) {ts : Tokens} (h : NoInnerAttributes ts) :
    innerAttributes (constant item) (unitAttributes ++ ts) =
      .ok ([docAttribute true "Generated by typeforge", silence], ts) := by
  obtain ⟨n, hn⟩ : ∃ n, TokenTree.sizes (unitAttributes ++ ts) = n + 1 :=
    Nat.exists_eq_add_one_of_ne_zero
      (by simp [unitAttributes, docTokens, TokenTree.sizes, TokenTree.size])
  have hdoc := innerAttribute_reads false false
    (metaContent_doc item (Text.stringLiteral "Generated by typeforge"))
  have hallow := innerAttribute_reads true false
    (metaContent_call item (w := "allow") (by decide) [.word "dead_code", .mark ',' false,
      .word "non_snake_case", .mark ',' false, .word "unused_imports"])
  have hstop := run_manyWhile_stop (p := fun ts => startsOp "#" ts && startsOp "!" (behind ts))
    (innerAttribute (constant item)) h n
  rw [innerAttributes, hn]
  exact run_manyWhile_step rfl (hdoc _) (run_manyWhile_step rfl (hallow ts) hstop)

/-- **The tokens of a schema** are read as its unit. -/
theorem Schema.unitBody_tokens {s : Schema} (h : s.WellFormed) :
    unitBody s.tokens = .ok ((s.unit.attrs, s.unit.items), []) := by
  obtain ⟨pieces, hr, htokens, hitems, hsize, hattrs⟩ := readsItems_enclose h h.modules
  have htail : encloseTokens s.modules ((s.imports.map useTokens).flatten ++ s.structTokens) =
      pieces.flatMap Prod.fst := by rw [htokens, memberPieces_tokens]
  have hmany : many anyItem (pieces.flatMap Prod.fst) = .ok (s.unit.items, []) := by
    have := @manyWhile_items anyItem pieces (fun p hp => ⟨(hr p hp).1, fun rest => by
      have := hsize p hp
      exact (hr p hp).2 _ (by rw [TokenTree.sizes_append]; omega) rest⟩) _
      (Nat.lt_succ_of_le (length_le_sizes_pieces hr))
    rw [hitems] at this
    exact this
  rw [tokens, htail]
  simp only [unitBody, run_bind, innerAttributes_unit _ hattrs, hmany]
  rfl

/-- **The text of a schema** is read as the unit of a schema that differs from it at most in commas
inside angle brackets. -/
theorem Schema.read_text {s : Schema} (h : s.WellFormed) :
    ∃ s' : Schema, s'.plain = s.plain ∧ SourceUnit.read s.text = .ok s'.unit := by
  obtain ⟨s', hs, hscans⟩ := Schema.scans_text h
  have hbody := Schema.unitBody_tokens (h.congr hs)
  obtain ⟨cs, hcs⟩ := s.text_start
  have hmark : Scan.dropMark s.text.toList = s.text.toList := by rw [hcs]; rfl
  have hshebang : splitShebang s.text.toList = (none, s.text.toList) := by rw [hcs]; rfl
  obtain ⟨placed, hplaced, hlexemes⟩ := hscans (s.text.toList.length + 1) (Nat.lt_succ_self _) [] rfl
  refine ⟨s', hs, ?_⟩
  have hscan : scan s.text.toList = .ok placed := by rw [scan, hmark, hplaced]
  have htrees : trees (placed.map (·.lexeme)) = s'.tokens := by
    rw [← trees_flatAll s'.tokens, ← hlexemes]
  simp only [SourceUnit.read, hmark, hshebang, hscan, htrees, hbody]
  rfl

end TypeFoundry.Synthesis
