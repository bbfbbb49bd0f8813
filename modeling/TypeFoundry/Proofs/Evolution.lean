import TypeFoundry.Proofs.Editing
import TypeFoundry.Proofs.Splitting

/-!
# The evolution of a schema

Requests for fields are made one after the other on the text of a new type, and a request that fails
leaves the text as it is (`evolve`). After any requests the text reads back: it declares one struct
of the name, in the modules of its namespace, whose fields are the common ones and those of the
successful requests in their order (`evolve_declares`). A type that has been broken over several lines is
compared without the comma that then stands behind its last argument.
-/

set_option autoImplicit false

namespace TypeFoundry.Synthesis

open Source

/-! ## Types as text -/

/-- The characters without commas in front of closing angle brackets. -/
def dropTrailing : List Char → List Char
  | ',' :: '>' :: cs => '>' :: dropTrailing cs
  | c :: cs => c :: dropTrailing cs
  | [] => []

/-- The text of a type without commas in front of closing angle brackets. -/
def withoutTrailingCommas (s : String) : String := .ofList (dropTrailing s.toList)

theorem dropTrailing_append {cs : List Char} (h : ',' ∉ cs) (ds : List Char) :
    dropTrailing (cs ++ ds) = cs ++ dropTrailing ds := by
  induction cs with
  | nil => rfl
  | cons c cs ih =>
    have hc : c ≠ ',' := fun hc => h (hc ▸ List.mem_cons_self)
    have ih := ih fun hm => h (List.mem_cons_of_mem _ hm)
    rw [List.cons_append, List.cons_append, ← ih]
    cases hds : cs ++ ds <;> simp [dropTrailing, hc]

theorem spelledAll_append (xs ys : Tokens) :
    TokenTree.spelledAll (xs ++ ys) = TokenTree.spelledAll xs ++ TokenTree.spelledAll ys := by
  induction xs with
  | nil => simp [TokenTree.spelledAll]
  | cons x xs ih => simp [TokenTree.spelledAll, ih, String.append_assoc]

theorem spelledAll_namesTokens (names : List String) :
    TokenTree.spelledAll (namesTokens names) = "::".intercalate names := by
  induction names with
  | nil => rfl
  | cons w names ih =>
    cases names with
    | nil => simp [namesTokens, joinedBy, TokenTree.spelledAll, TokenTree.spelled]
    | cons v names =>
      have hop : TokenTree.spelledAll (op "::") = "::" := by decide
      simp only [namesTokens, List.map_cons, joinedBy] at ih ⊢
      rw [spelledAll_append, spelledAll_append, ih, hop, String.intercalate_cons_cons]
      simp [TokenTree.spelledAll, TokenTree.spelled]

/-- No blank and no comma stands in an identifier. -/
theorem not_mem_identifier {w : String} (h : isIdentifier w = true) {c : Char} (hc : c ≠ 'r' ∧ c ≠ '#')
    (hcont : Text.Identifier.isContinue c = false) (hstart : Text.Identifier.isStart c = false) :
    c ∉ w.toList := by
  have hword : ∀ cs, Text.Identifier.isWord cs = true → c ∉ cs := by
    intro cs hcs hm
    cases cs with
    | nil => cases hm
    | cons d ds =>
      simp only [Text.Identifier.isWord, Bool.and_eq_true, List.all_eq_true] at hcs
      obtain rfl | hm := List.mem_cons.1 hm
      · rw [hcs.1] at hstart
        cases hstart
      · rw [hcs.2 c hm] at hcont
        cases hcont
  unfold isIdentifier at h
  split at h
  · rename_i rest hw
    rw [hw]
    have := hword rest (Bool.and_eq_true_iff.1 h).1
    simp [hc, this]
  · exact hword _ h

theorem tokens_ofNames (names : List String) : (Ty.ofNames false names).tokens = namesTokens names := by
  have hsegments : segmentsTokens (names.map .plain) = names.map ([.word ·]) := by
    induction names with
    | nil => rfl
    | cons w names ih => simp [segmentsTokens, Segment.tokens, ih]
  simp [Ty.ofNames, Ty.tokens, hsegments, namesTokens]

theorem spelled_reference (target : TypePath) (outer inner : Bool) :
    TokenTree.spelledAll (ValueType.reference target outer inner).ty.tokens =
      "Option<Box<" ++ ("::".intercalate target.crateSegments ++
        ((if inner then "," else "") ++ (">" ++ ((if outer then "," else "") ++ ">")))) := by
  have hpath := spelledAll_namesTokens target.crateSegments
  rw [← tokens_ofNames] at hpath
  have hangled : ∀ (name : String) (t : Ty) (comma : Bool),
      TokenTree.spelledAll (Ty.path false [.angled name false [.type t] comma]).tokens =
        name ++ ("<" ++ (TokenTree.spelledAll t.tokens ++ ((if comma then "," else "") ++ ">"))) := by
    intro name t comma
    have hopen : TokenTree.spelledAll (op "<") = "<" := by decide
    have hclose : TokenTree.spelledAll (op ">") = ">" := by decide
    have hcomma : TokenTree.spelledAll (op ",") = "," := by decide
    cases comma <;>
      simp [Ty.tokens, segmentsTokens, joinedBy, Segment.tokens, argumentList, argumentsTokens,
        GenericArg.isLifetime, GenericArg.tokens, commaJoined, TokenTree.spelledAll,
        TokenTree.spelled, spelledAll_append, hopen, hclose, hcomma]
  rw [ValueType.ty, hangled, hangled, hpath]
  simp [← String.append_assoc]

/-- A type whose text has no blanks is packed as that text. -/
theorem packed_eq {t : Ty} (h : ' ' ∉ (TokenTree.spelledAll t.tokens).toList) :
    t.packed = TokenTree.spelledAll t.tokens := by
  have hfilter : (TokenTree.spelledAll t.tokens).toList.filter (· ≠ ' ') =
      (TokenTree.spelledAll t.tokens).toList := by
    rw [List.filter_eq_self]
    intro c hc
    simpa using fun he : c = ' ' => h (he ▸ hc)
  rw [Ty.packed, hfilter, String.ofList_toList]

/-- The text of a field's type without commas in its brackets. -/
def ValueType.packed : ValueType → String
  | primitive name => name
  | reference target _ _ => "Option<Box<crate::" ++ target.display ++ ">>"

theorem ValueType.packed_primitive (name : String) : (primitive name).packed = name := rfl

theorem ValueType.packed_reference (target : TypePath) (outer inner : Bool) :
    (reference target outer inner).packed = "Option<Box<crate::" ++ target.display ++ ">>" := rfl

/-- **The text of a field's type**, but for commas in front of closing angle brackets. -/
theorem packed_ty {v : ValueType} (h : v.WellFormed) :
    withoutTrailingCommas v.ty.packed = v.packed := by
  cases v with
  | primitive name =>
    have hname := isIdentifier_of_isItemName h
    have hblank := not_mem_identifier hname (c := ' ') (by decide) (by decide) (by decide)
    have hcomma := not_mem_identifier hname (c := ',') (by decide) (by decide) (by decide)
    have hspelled : TokenTree.spelledAll (ValueType.primitive name).ty.tokens = name := by
      rw [ValueType.ty, tokens_ofNames, spelledAll_namesTokens, String.intercalate_singleton]
    have hdrop : dropTrailing name.toList = name.toList := by
      have := dropTrailing_append hcomma []
      simpa [dropTrailing] using this
    rw [packed_eq (by rwa [hspelled]), hspelled, withoutTrailingCommas, hdrop, String.ofList_toList,
      ValueType.packed_primitive]
  | reference target outer inner =>
    have hnames : ∀ w ∈ target.crateSegments, isIdentifier w = true := by
      intro w hw
      obtain rfl | hw := List.mem_cons.1 hw
      · decide
      · exact isIdentifier_of_isPathName (h w hw)
    have hblank := Text.not_mem_intercalate (c := ' ') (m := "::") (by decide) fun w hw =>
      not_mem_identifier (hnames w hw) (by decide) (by decide) (by decide)
    have hcomma := Text.not_mem_intercalate (c := ',') (m := "::") (by decide) fun w hw =>
      not_mem_identifier (hnames w hw) (by decide) (by decide) (by decide)
    have hpath : "::".intercalate target.crateSegments = "crate::" ++ target.display := by
      rw [TypePath.crateSegments, String.intercalate_cons_of_ne_nil (by simp [TypePath.segments]),
        TypePath.display]
      rfl
    have hspelled := spelled_reference target outer inner
    rw [hpath] at hblank hcomma hspelled
    have hresult : "Option<Box<crate::" ++ target.display ++ ">>" =
        "Option<Box<" ++ ("crate::" ++ target.display ++ ">>") := by
      rw [← String.append_assoc, ← String.append_assoc]
      rfl
    rw [ValueType.packed_reference, hresult]
    generalize "crate::" ++ target.display = path at *
    rw [packed_eq (by rw [hspelled]; cases outer <;> cases inner <;> simp [hblank]), hspelled,
      withoutTrailingCommas, ← String.toList_inj, String.toList_ofList]
    simp only [String.toList_append]
    rw [dropTrailing_append (by decide), dropTrailing_append hcomma]
    cases outer <;> cases inner <;> rfl

/-! ## Runs of requests -/

/-- What the requests make of `a`, one after the other, and the requests that succeeded. A request
that fails changes nothing. -/
def settle {α β ε : Type} (step : α → β → Except ε α) : α → List β → α × List β
  | a, [] => (a, [])
  | a, b :: bs =>
    match step a b with
    | .ok a' => ((settle step a' bs).1, b :: (settle step a' bs).2)
    | .error _ => settle step a bs

section

variable {α β ε : Type} (step : α → β → Except ε α) {a a' : α} {b : β}

theorem settle_ok (h : step a b = .ok a') (bs : List β) :
    settle step a (b :: bs) = ((settle step a' bs).1, b :: (settle step a' bs).2) := by
  rw [settle, h]

theorem settle_error {e : ε} (h : step a b = .error e) (bs : List β) :
    settle step a (b :: bs) = settle step a bs := by
  rw [settle, h]

end

/-- The text after the requests for fields, one after the other, and the requests that succeeded. -/
def evolve (typeName : String) (resolve : TypePath → Option TypePath) (text : String)
    (rs : List FieldRequest) : String × List FieldRequest :=
  settle (fun text r => addField text typeName r resolve) text rs

theorem evolve_ok {typeName text text' : String} {resolve : TypePath → Option TypePath}
    {r : FieldRequest} (h : addField text typeName r resolve = .ok text') (rs : List FieldRequest) :
    evolve typeName resolve text (r :: rs) =
      ((evolve typeName resolve text' rs).1, r :: (evolve typeName resolve text' rs).2) :=
  settle_ok (fun text r => addField text typeName r resolve) h rs

theorem evolve_error {typeName text : String} {resolve : TypePath → Option TypePath} {e : Halt}
    {r : FieldRequest} (h : addField text typeName r resolve = .error e) (rs : List FieldRequest) :
    evolve typeName resolve text (r :: rs) = evolve typeName resolve text rs :=
  settle_error (fun text r => addField text typeName r resolve) h rs

/-- **A run of requests** leaves the text of a schema with the imports and the fields of the successful
requests behind those that were there. -/
theorem evolve_pushes {s : Schema} (h : s.WellFormed) (resolve : TypePath → Option TypePath)
    {rs : List FieldRequest} (hrs : ∀ r ∈ rs, isItemName r.name = true) :
    ∃ s' : Schema, s'.WellFormed ∧ s'.path = s.path ∧ (evolve s.name resolve s.text rs).1 = s'.text ∧
      s'.imports = (evolve s.name resolve s.text rs).2.foldl
        (fun paths r => Schema.withImport (foreignModules? resolve s.modules r) paths) s.imports ∧
      ∃ added, s'.fields = s.fields ++ added ∧ added.map (fun f => (f.name, some f.value)) =
        (evolve s.name resolve s.text rs).2.map fun r => (r.name, valueType? resolve r) := by
  induction rs generalizing s with
  | nil => exact ⟨s, h, rfl, rfl, rfl, [], by simp, rfl⟩
  | cons r rs ih =>
    have hrs' := fun q hq => hrs q (List.mem_cons_of_mem _ hq)
    obtain ⟨v, hv, hwell, -, hok⟩ | ⟨e, -, herror⟩ :=
      addField_pushes h (hrs r List.mem_cons_self) resolve
    · obtain ⟨s', hs', hpath, htext, himports, added, hfields, hadded⟩ := ih hwell hrs'
      rw [evolve_ok hok]
      refine ⟨s', hs', hpath, htext, himports, ⟨r.name, v⟩ :: added, ?_, ?_⟩
      · rw [hfields]
        simp [Schema.push]
      · rw [List.map_cons, List.map_cons, hv]
        exact congrArg _ hadded
    · rw [evolve_error herror]
      exact ih h hrs'

/-- A run of requests leaves the text of a schema with the fields of the successful requests behind the
fields that were there. -/
theorem evolve_text {s : Schema} (h : s.WellFormed) (resolve : TypePath → Option TypePath)
    {rs : List FieldRequest} (hrs : ∀ r ∈ rs, isItemName r.name = true) :
    ∃ s' : Schema, s'.WellFormed ∧ s'.path = s.path ∧ (evolve s.name resolve s.text rs).1 = s'.text ∧
      ∃ added, s'.fields = s.fields ++ added ∧ added.map (fun f => (f.name, some f.value)) =
        (evolve s.name resolve s.text rs).2.map fun r => (r.name, valueType? resolve r) := by
  obtain ⟨s', hs', hpath, htext, -, hadded⟩ := evolve_pushes h resolve hrs
  exact ⟨s', hs', hpath, htext, hadded⟩

/-- The type that a request declares its field with, as text without blanks. -/
def declaredType (resolve : TypePath → Option TypePath) (r : FieldRequest) : Option String :=
  match r.kind with
  | .int => some "i32"
  | .long => some "i64"
  | .double => some "f64"
  | .bool => some "bool"
  | .string => some "String"
  | .reference => ((TypePath.parse (Text.trim (r.target.getD ""))).bind resolve).map fun p =>
      "Option<Box<crate::" ++ p.display ++ ">>"

theorem declaredType_eq (resolve : TypePath → Option TypePath) (r : FieldRequest) :
    declaredType resolve r = (valueType? resolve r).map ValueType.packed := by
  unfold declaredType valueType?
  cases r.kind with
  | reference => simp only [primitiveName?, Option.map_map, Function.comp_def, ValueType.packed_reference]
  | _ => rfl

/-- The full name of the type that the text of a schema declares. -/
theorem typePath_text {s : Schema} (h : s.WellFormed) : typePath s.text s.name = .ok s.path := by
  obtain ⟨s', hs, hread⟩ := Schema.read_text h
  have hname := Schema.name_congr hs
  have hmodules := Schema.modules_congr hs
  have hstruct := s'.structNamed_unit
  rw [hname] at hstruct
  simp only [typePath, SourceUnit.readFor, hread, bind, Except.bind, hstruct, pure, Except.pure,
    Schema.path, hmodules]

/-- The text of a field's type does not show commas in front of closing angle brackets. -/
theorem packed_plain (v : ValueType) : v.plain.packed = v.packed := by
  cases v <;> rfl

/-- The fields that a text declares which reads as the unit of a schema. -/
theorem declaredFields_read {s : Schema} {text : String} (h : SourceUnit.read text = .ok s.unit) :
    declaredFields text s.name =
      .ok (s.struct.namedFields.map fun f => (f.name, f.type.packed)) := by
  have hstruct := s.structNamed_unit
  simp only [declaredFields, SourceUnit.readFor, h, bind, Except.bind, hstruct, pure, Except.pure]

/-- **The fields that the text of a schema declares.** -/
theorem declaredFields_text {s : Schema} (h : s.WellFormed) :
    ∃ fields, declaredFields s.text s.name = .ok fields ∧
      fields.map (fun f => (f.1, withoutTrailingCommas f.2)) =
        [("id", "u128"), ("name", "String")] ++ s.fields.map fun f => (f.name, f.value.packed) := by
  obtain ⟨s', hs, hread⟩ := Schema.read_text h
  have hdeclared := declaredFields_read hread
  rw [Schema.name_congr hs] at hdeclared
  refine ⟨_, hdeclared, ?_⟩
  have hwell := h.congr hs
  have hcommon : Schema.commonFields.map (fun f => (f.name, withoutTrailingCommas f.type.packed)) =
      [("id", "u128"), ("name", "String")] := by
    have hid := @packed_ty (.primitive "u128") (show isItemName "u128" = true by decide)
    have hname := @packed_ty (.primitive "String") (show isItemName "String" = true by decide)
    rw [ValueType.packed_primitive] at hid hname
    simp only [Schema.commonFields, List.map_cons, List.map_nil]
    exact congrArg₂ (fun a b => [("id", a), ("name", b)]) hid hname
  have hfields : s'.fields.map (fun f => (f.name, withoutTrailingCommas f.value.ty.packed)) =
      s.fields.map fun f => (f.name, f.value.packed) := by
    have hpacked : s'.fields.map (fun f => (f.name, withoutTrailingCommas f.value.ty.packed)) =
        s'.fields.map fun f => (f.name, f.value.packed) := by
      refine List.map_congr_left fun f hf => ?_
      rw [packed_ty (hwell.fields f hf).value]
    have hplain : ∀ s : Schema, s.plain.fields.map (fun f => (f.name, f.value.packed)) =
        s.fields.map fun f => (f.name, f.value.packed) := by
      intro s
      simp [Schema.plain, SchemaField.plain, packed_plain, Function.comp_def]
    rw [hpacked, ← hplain s', hs, hplain]
  have hall : s'.struct.namedFields = Schema.commonFields ++ s'.fields.map SchemaField.field := rfl
  rw [List.map_map, hall, List.map_append, ← hcommon, ← hfields, List.map_map]
  rfl

theorem Schema.WellFormed.new {name : String} {modules : List String} (hname : isItemName name = true)
    (hmodules : ∀ m ∈ modules, isModuleName m = true) : (Schema.new name modules).WellFormed :=
  ⟨hname, hmodules, by simp [Schema.new], by simp [Schema.new]⟩

/-- The text of a new type is the text of a schema without further fields. -/
theorem newType_eq {name : String} {modules : List String} (hname : isItemName name = true)
    (hmodules : ∀ m ∈ modules, isModuleName m = true) :
    newType name modules = .ok (Schema.new name modules).text := by
  have hall : modules.all isModuleName = true := List.all_eq_true.2 hmodules
  simp only [newType, hname, hall, Bool.and_self, ↓reduceIte]
  rfl

/-- The text of a new type is read as its unit: there are no brackets in which a comma could stand. -/
theorem Schema.read_new {name : String} {modules : List String} (hname : isItemName name = true)
    (hmodules : ∀ m ∈ modules, isModuleName m = true) :
    SourceUnit.read (Schema.new name modules).text = .ok (Schema.new name modules).unit := by
  obtain ⟨schema, hschema, hread⟩ := Schema.read_text (.new hname hmodules)
  have hfields : schema.fields = [] := by
    simpa [Schema.plain, Schema.new] using congrArg Schema.fields hschema
  have hself : schema.plain = schema := by rw [Schema.plain, hfields, List.map_nil, ← hfields]
  rw [hread, ← hself, hschema]
  rfl

theorem isUseName_of_isPlain {w : String} (h : IsPlain w) : isUseName w = true := by
  have hself : w ≠ "Self" := by
    rintro rfl
    exact absurd h.not_isReserved (by decide)
  simp [isUseName, isPathName, TypePath.isSegment, h.isIdentifier, h.not_isReserved, hself]

/-- **Fields are neither lost nor altered.** After any requests on the text of a new type, the text
reads back, declares one struct of the name in all its modules, under the full name that the type was
made with, and its fields are the common ones and those of the successful requests in order. A
further request then succeeds or fails, but is never aborted. -/
theorem evolve_declares {name : String} {modules : List String}
    {resolve : TypePath → Option TypePath} {rs : List FieldRequest} (hname : IsPlain name)
    (hmodules : ∀ m ∈ modules, IsPlain m)
    (hresolve : ∀ p q, resolve p = some q → ∀ w ∈ q.segments, IsPlain w)
    (hrs : ∀ r ∈ rs, IsPlain r.name) :
    ∃ text, newType name modules = .ok text ∧
      (∃ unit, SourceUnit.read (evolve name resolve text rs).1 = .ok unit ∧
        (structsNamed name unit.items).length = 1) ∧
      typePath (evolve name resolve text rs).1 name = .ok ⟨modules, name⟩ ∧
      (∃ fields, declaredFields (evolve name resolve text rs).1 name = .ok fields ∧
        fields.map (fun f => (f.1, some (withoutTrailingCommas f.2))) =
          [("id", some "u128"), ("name", some "String")] ++
            (evolve name resolve text rs).2.map fun r => (r.name, declaredType resolve r)) ∧
      ∀ r, IsPlain r.name →
        addField (evolve name resolve text rs).1 name r resolve ≠ .error .aborted := by
  have hmodules' := fun m hm => (hmodules m hm).isModuleName
  have hnew := Schema.WellFormed.new hname.isItemName hmodules'
  refine ⟨_, newType_eq hname.isItemName hmodules', ?_⟩
  obtain ⟨s, hs, hpath, htext, added, hfields, hadded⟩ :=
    evolve_text hnew resolve fun r hr => (hrs r hr).isItemName
  have hsname : s.name = name := congrArg TypePath.name hpath
  rw [show (Schema.new name modules).name = name from rfl] at htext hadded
  rw [htext]
  refine ⟨?_, ?_, ?_, fun r hr => ?_⟩
  · obtain ⟨s', hs', hread⟩ := Schema.read_text hs
    have hone := s'.structsNamed_unit
    rw [Schema.name_congr hs', hsname] at hone
    exact ⟨_, hread, by rw [hone]; rfl⟩
  · rw [← hsname, typePath_text hs, hpath, hsname]
    rfl
  · obtain ⟨fields, hdeclared, hmap⟩ := declaredFields_text hs
    rw [hsname] at hdeclared
    refine ⟨fields, hdeclared, ?_⟩
    have hsome := congrArg (List.map fun f : String × String => (f.1, some f.2)) hmap
    have hvalues := congrArg (List.map fun f : String × Option ValueType =>
      (f.1, f.2.map ValueType.packed)) hadded
    simp only [List.map_map, Function.comp_def, Option.map_some] at hvalues
    simp only [declaredType_eq, ← hvalues]
    rw [hfields] at hsome
    simpa [Function.comp_def, Schema.new] using hsome
  · rw [← hsname]
    obtain ⟨v, path, -, -, -, hok⟩ | ⟨e, he, herror⟩ := addField_cases hs hr.isItemName resolve
    · rw [hok]
      simp
    · rw [herror]
      have := he.ne_aborted fun p q hq w hw => isUseName_of_isPlain (hresolve p q hq w hw)
      simpa using this

/-- A type gets a number and a reference to itself. -/
theorem evolve_declares_node :
    let resolve : TypePath → Option TypePath := fun _ => some ⟨["graph"], "Node"⟩
    let rs : List FieldRequest := [⟨"size", .int, none⟩, ⟨"next", .reference, some "graph::Node"⟩]
    ∃ text, newType "Node" ["graph"] = .ok text ∧
      typePath (evolve "Node" resolve text rs).1 "Node" = .ok ⟨["graph"], "Node"⟩ := by
  have hplain : ∀ w ∈ ["Node", "graph", "size", "next"], IsPlain w := by
    intro w hw
    refine ⟨?_, ?_⟩ <;> revert w <;> decide +kernel
  intro resolve rs
  have hresolve : ∀ p q, resolve p = some q → ∀ w ∈ q.segments, IsPlain w := by
    rintro p q ⟨⟩ w hw
    exact hplain w (by revert w; decide)
  have hrs : ∀ r ∈ rs, IsPlain r.name := by
    intro r hr
    refine hplain r.name ?_
    simp only [rs, List.mem_cons, List.not_mem_nil, or_false] at hr
    obtain rfl | rfl := hr <;> simp
  obtain ⟨text, hnew, -, hpath, -⟩ :=
    @evolve_declares "Node" ["graph"] _ _ (hplain "Node" (by simp))
      (by simpa using hplain "graph" (by simp)) hresolve hrs
  exact ⟨text, hnew, hpath⟩

end TypeFoundry.Synthesis
