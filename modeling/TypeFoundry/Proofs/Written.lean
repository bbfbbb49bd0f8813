import TypeFoundry.Proofs.Evolution
import TypeFoundry.Proofs.Serving

/-!
# Units that requests wrote

`Written name text` says that requests wrote the text as the unit of the type of that name. Such a
text is the text of a schema (`Written.schema`). A request that is served writes a unit of the type
in place of the one that was there, under the same full name (`Prepares.written`).
-/

set_option autoImplicit false

namespace TypeFoundry

open Files Files.Disk Synthesis

/-- Requests with plain names wrote the text as the unit of the type of that name. -/
inductive Written : String → String → Prop where
  | create {name text : String} {modules : List String} : IsPlain name → (∀ m ∈ modules, IsPlain m) →
    newType name modules = .ok text → Written name text
  | extend {name text text' : String} {r : FieldRequest} {resolve : TypePath → Option TypePath} :
    Written name text → IsPlain r.name → addField text name r resolve = .ok text' →
    Written name text'

/-- The text is that of a schema for a type of that name. -/
def IsSchemaText (name text : String) (s : Schema) : Prop :=
  s.WellFormed ∧ s.name = name ∧ s.text = text

theorem isSchemaText_new {name text : String} {modules : List String} (hname : IsPlain name)
    (hmodules : ∀ m ∈ modules, IsPlain m) (h : newType name modules = .ok text) :
    IsSchemaText name text (Schema.new name modules) := by
  have hmodules' := fun m hm => (hmodules m hm).isModuleName
  rw [newType_eq hname.isItemName hmodules'] at h
  exact ⟨Schema.WellFormed.new hname.isItemName hmodules', rfl, Except.ok.inj h⟩

/-- A further field leaves the schema's full name. -/
theorem IsSchemaText.addField {name text text' : String} {s : Schema} {r : FieldRequest}
    {resolve : TypePath → Option TypePath} (hs : IsSchemaText name text s)
    (hr : isItemName r.name = true)
    (h : addField text name r resolve = .ok text') :
    ∃ v path, valueType? resolve r = some v ∧ IsSchemaText name text' (s.push ⟨r.name, v⟩ path) := by
  obtain ⟨hwell, rfl, rfl⟩ := hs
  obtain ⟨v, path, hv, hpush, -, hok⟩ | ⟨e, -, herror⟩ := addField_cases hwell hr resolve
  · rw [hok] at h
    exact ⟨v, path, hv, hpush, rfl, Except.ok.inj h⟩
  · rw [herror] at h
    cases h

theorem IsSchemaText.typePath {name text : String} {s : Schema} (h : IsSchemaText name text s) :
    typePath text name = .ok s.path := by
  obtain ⟨hwell, rfl, rfl⟩ := h
  exact typePath_text hwell

/-- **What requests wrote** is the text of a schema. -/
theorem Written.schema {name text : String} (h : Written name text) :
    ∃ s, IsSchemaText name text s := by
  induction h with
  | create hname hmodules hnew => exact ⟨_, isSchemaText_new hname hmodules hnew⟩
  | extend _ hr hadd ih =>
    obtain ⟨s, hs⟩ := ih
    obtain ⟨v, path, -, hs'⟩ := hs.addField hr.isItemName hadd
    exact ⟨_, hs'⟩

theorem typePath_name {source name : String} {path : TypePath} (h : typePath source name = .ok path) :
    path.name = name := by
  unfold typePath at h
  cases hread : Source.SourceUnit.readFor name source with
  | error e => rw [hread] at h; cases h
  | ok unit =>
    rw [hread] at h
    cases hstruct : unit.structNamed name with
    | error e => simp only [bind, Except.bind, hstruct] at h; cases h
    | ok found =>
      simp only [bind, Except.bind, hstruct] at h
      rw [← Except.ok.inj h]

/-! ## Requests with plain names -/

namespace Request

/-- The names in the request are plain. -/
def IsPlain : Request → Prop
  | create r => TypeFoundry.IsPlain r.name
  | extend name r => TypeFoundry.IsPlain name ∧ TypeFoundry.IsPlain r.name

end Request

theorem isFileName_unit_iff {name : String} :
    IsFileName (name ++ Store.ending) ↔ '/' ∉ name.toList := by
  have hdots : ∀ {t : String}, t.toList.length ≤ 2 → name ++ Store.ending ≠ t := by
    rintro t ht rfl
    simp [Store.ending] at ht
  refine ⟨fun h => by simpa [Store.ending] using h.noSlash, fun hslash => ?_⟩
  exact ⟨hdots (by decide), hdots (by decide), hdots (by decide), by simpa [Store.ending] using hslash⟩

theorem isFileName_unit {name : String} (h : isIdentifier name = true) :
    IsFileName (name ++ Store.ending) :=
  isFileName_unit_iff.2 (not_mem_identifier h (by decide) (by decide) (by decide))

/-- The file of a type with a plain name stands right in the directory of the store. -/
theorem place_path {name : String} (h : isIdentifier name = true) (cwd : Location) (s : Store) :
    place cwd (s.path name) = place cwd s.root ++ [name ++ Store.ending] :=
  place_join (isFileName_unit h) cwd s.root

/-- Requests wrote all units of the store. -/
def Store.AllWritten (s : Store) (w : World) : Prop :=
  ∀ name content, s.unit? w name = some content → ∃ text, content = .text text ∧ Written name text

theorem Store.allWritten_empty (s : Store) {w : World} (h : w.disk = .empty) : s.AllWritten w := by
  intro name content hcontent
  rw [Store.unit?, h] at hcontent
  simp [file?, Disk.entry?, Disk.empty] at hcontent

theorem Store.AllWritten.read {s : Store} {w : World} {name text : String} (h : s.AllWritten w)
    (hname : isIdentifier name = true) (hread : w.disk.read w.cwd (s.path name) = .ok text) :
    Written name text := by
  have hfile := read_eq hread
  rw [place_path hname] at hfile
  obtain ⟨text', ht, hwritten⟩ := h name _ hfile
  obtain rfl := Content.text.inj ht
  exact hwritten

/-- **A request that is served** writes a unit of the type under its full name. -/
theorem Request.Prepares.written {f : Foundry} {w : World} {q : Request} {name source : String}
    {path : TypePath} (h : q.Prepares f w name source path) (hq : q.IsPlain)
    (hmodules : ∀ m ∈ f.modules, TypeFoundry.IsPlain m) (hstore : f.store.AllWritten w) :
    TypeFoundry.IsPlain name ∧ path.name = name ∧ Written name source ∧
      typePath source name = .ok path := by
  cases h with
  | create hcheck hnew =>
    exact ⟨hq, rfl, .create hq hmodules hnew, (isSchemaText_new hq hmodules hnew).typePath⟩
  | extend hname hcheck hread hpath hadd =>
    have hold := hstore.read hq.1.isIdentifier hread
    obtain ⟨s, hs⟩ := hold.schema
    obtain ⟨v, imported, -, hs'⟩ := hs.addField hq.2.isItemName hadd
    refine ⟨hq.1, typePath_name hpath, .extend hold hq.2 hadd, ?_⟩
    rw [hs'.typePath, ← hpath, hs.typePath]
    rfl

end TypeFoundry
