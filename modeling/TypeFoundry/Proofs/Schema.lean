import TypeFoundry.Synthesis.AddField

/-!
# Schemas

A schema says what the unit of a type declares: the modules around the type, its imports, and the
fields behind its identity and its display name. `Schema.unit` is the unit and `Schema.text` its text.
The angle brackets of a field's type may hold a comma where its line was broken; `Schema.plain` is
the schema without such commas, and the text does not depend on them (`Schema.text_plain`).
-/

set_option autoImplicit false

namespace TypeFoundry.Synthesis

open Source Layout

/-- What a field holds: a value of a built-in type, or an optional box of the type at a path, with a
comma in front of the outer and of the inner closing bracket or not. -/
inductive ValueType where
  | primitive (name : String)
  | reference (target : TypePath) (outer : Bool) (inner : Bool)

namespace ValueType

/-- The type as a unit holds it. -/
def ty : ValueType → Ty
  | primitive name => .ofNames false [name]
  | reference target outer inner =>
    .path false [.angled "Option" false
      [.type (.path false [.angled "Box" false [.type (.ofNames false target.crateSegments)] inner])]
      outer]

/-- The type without commas in its brackets. -/
def plain : ValueType → ValueType
  | primitive name => primitive name
  | reference target _ _ => reference target false false

/-- The names in the type can stand where they stand. -/
def WellFormed : ValueType → Prop
  | primitive name => isItemName name = true
  | reference target _ _ => ∀ w ∈ target.segments, isPathName w = true

@[simp] theorem plain_plain (v : ValueType) : v.plain.plain = v.plain := by cases v <;> rfl

theorem wellFormed_plain (v : ValueType) : v.plain.WellFormed ↔ v.WellFormed := by
  cases v <;> exact Iff.rfl

/-- The layout of a type does not show whether its brackets hold a comma. -/
theorem layout_plain (constant : Tokens → Doc) (v : ValueType) :
    v.plain.ty.layout constant = v.ty.layout constant := by
  cases v <;> rfl

end ValueType

/-- A field of a schema. -/
structure SchemaField where
  name : String
  value : ValueType

namespace SchemaField

/-- The field without commas in the brackets of its type. -/
def plain (f : SchemaField) : SchemaField := ⟨f.name, f.value.plain⟩

/-- The field as a unit holds it. -/
def field (f : SchemaField) : Field := publicField f.name f.value.ty

/-- The names in the field can stand where they stand. -/
structure WellFormed (f : SchemaField) : Prop where
  name : isItemName f.name = true
  value : f.value.WellFormed

@[simp] theorem plain_plain (f : SchemaField) : f.plain.plain = f.plain := by simp [plain]

theorem wellFormed_plain (f : SchemaField) : f.plain.WellFormed ↔ f.WellFormed :=
  ⟨fun h => ⟨h.name, f.value.wellFormed_plain.1 h.value⟩,
    fun h => ⟨h.name, f.value.wellFormed_plain.2 h.value⟩⟩

end SchemaField

/-- What the unit of a type declares. -/
structure Schema where
  modules : List String
  name : String
  imports : List (List String)
  fields : List SchemaField

namespace Schema

/-- The schema of a new type. -/
def new (name : String) (modules : List String) : Schema := ⟨modules, name, [], []⟩

/-- The schema without commas in the brackets of its types. -/
def plain (s : Schema) : Schema := { s with fields := s.fields.map SchemaField.plain }

/-- The full name of the type. -/
def path (s : Schema) : TypePath := ⟨s.modules, s.name⟩

/-- The field of the identity, with its documentation. -/
def identity : Field :=
  { publicField identityField (.ofNames false ["u128"]) with
    attrs := [docAttribute false " UUID, stored as its 128-bit value."] }

/-- The field of the display name. -/
def displayName : Field := publicField displayNameField (.ofNames false ["String"])

/-- The fields that every type has. -/
def commonFields : List Field := [identity, displayName]

/-- The struct of the type. -/
def struct (s : Schema) : StructDecl :=
  { newStruct s.name with fields := .named (commonFields ++ s.fields.map SchemaField.field) }

/-- The items of the module that the type is declared in. -/
def members (s : Schema) : List Item :=
  s.imports.map (fun path => .use (importOf path)) ++ [.struct s.struct]

/-- The unit of the type. -/
def unit (s : Schema) : SourceUnit :=
  { newUnit s.name s.modules with items := enclose s.modules s.members }

/-- The text of the unit. -/
def text (s : Schema) : String := s.unit.text

/-- The names in the schema can stand where they stand. -/
structure WellFormed (s : Schema) : Prop where
  name : isItemName s.name = true
  modules : ∀ m ∈ s.modules, isModuleName m = true
  imports : ∀ path ∈ s.imports, ∀ w ∈ path, isUseName w = true
  fields : ∀ f ∈ s.fields, f.WellFormed

@[simp] theorem plain_plain (s : Schema) : s.plain.plain = s.plain := by
  simp [plain, Function.comp_def]

theorem name_congr {s s' : Schema} (h : s'.plain = s.plain) : s'.name = s.name := by
  have : s'.plain.name = s.plain.name := by rw [h]
  exact this

theorem modules_congr {s s' : Schema} (h : s'.plain = s.plain) : s'.modules = s.modules := by
  have : s'.plain.modules = s.plain.modules := by rw [h]
  exact this

theorem imports_congr {s s' : Schema} (h : s'.plain = s.plain) : s'.imports = s.imports := by
  have : s'.plain.imports = s.plain.imports := by rw [h]
  exact this

theorem wellFormed_plain (s : Schema) : s.plain.WellFormed ↔ s.WellFormed := by
  constructor
  · intro h
    refine ⟨h.name, h.modules, h.imports, fun f hf => ?_⟩
    exact f.wellFormed_plain.1 (h.fields _ (List.mem_map_of_mem hf))
  · intro h
    refine ⟨h.name, h.modules, h.imports, fun f hf => ?_⟩
    obtain ⟨g, hg, rfl⟩ := List.mem_map.1 hf
    exact g.wellFormed_plain.2 (h.fields g hg)

/-- Well-formedness does not depend on commas. -/
theorem WellFormed.congr {s s' : Schema} (h : s.WellFormed) (he : s'.plain = s.plain) :
    s'.WellFormed := by
  rw [← wellFormed_plain, he, wellFormed_plain]
  exact h

theorem fieldLines_plain (inner : Inner) (fs : List SchemaField) :
    fieldLines inner ((fs.map SchemaField.plain).map SchemaField.field) =
      fieldLines inner (fs.map SchemaField.field) := by
  induction fs with
  | nil => rfl
  | cons f fs ih =>
    simp only [fieldLines, List.map_cons, List.flatMap_cons] at ih ⊢
    rw [ih]
    simp [SchemaField.field, SchemaField.plain, publicField, Field.content,
      ValueType.layout_plain]

theorem itemsLines_append (inner : Inner) (is js : List Item) :
    itemsLines inner (is ++ js) = itemsLines inner is ++ itemsLines inner js := by
  induction is with
  | nil => rfl
  | cons i is ih => simp [itemsLines, ih]

theorem itemsLines_enclose {items items' : List Item} (inner : Inner)
    (h : itemsLines inner items = itemsLines inner items') (modules : List String) :
    itemsLines inner (enclose modules items) = itemsLines inner (enclose modules items') := by
  induction modules with
  | nil => exact h
  | cons m modules ih =>
    simp only [enclose, List.foldr_cons, publicModule, itemsLines, Item.lines] at ih ⊢
    rw [ih]

/-- **The text of a schema** does not depend on commas in the brackets of its types. -/
theorem text_plain (s : Schema) : s.plain.text = s.text := by
  have hstruct : ∀ inner, s.plain.struct.lines inner = s.struct.lines inner := by
    intro inner
    have hfields : fieldLines inner (commonFields ++ s.plain.fields.map SchemaField.field) =
        fieldLines inner (commonFields ++ s.fields.map SchemaField.field) := by
      have := fieldLines_plain inner s.fields
      simp only [fieldLines, plain, List.flatMap_append] at this ⊢
      rw [this]
    simp only [StructDecl.lines, struct, newStruct, hfields]
    rfl
  have hmembers : ∀ inner, itemsLines inner s.plain.members = itemsLines inner s.members := by
    intro inner
    simp only [members, itemsLines_append, itemsLines, Item.lines, hstruct]
    rfl
  have hitems : ∀ inner, itemsLines inner s.plain.unit.items = itemsLines inner s.unit.items :=
    fun inner => itemsLines_enclose inner (hmembers inner) s.modules
  simp only [text, SourceUnit.text, SourceUnit.layout, hitems]
  rfl

theorem text_congr {s s' : Schema} (h : s'.plain = s.plain) : s'.text = s.text := by
  rw [← text_plain s', h, text_plain s]

end Schema

end TypeFoundry.Synthesis
