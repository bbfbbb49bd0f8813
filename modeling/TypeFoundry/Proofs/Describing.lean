import TypeFoundry.Proofs.Declaring
import TypeFoundry.Proofs.Descriptors
import TypeFoundry.Proofs.Editing
import TypeFoundry.Proofs.Encoding
import TypeFoundry.Proofs.Establishing

/-!
# What a compiled module describes

A toolchain is faithful to a crate if the module that it makes of it loads, and describes the structs
that the crate was to describe (`Loaded.Describes`). Such a description is read as it was meant
(`layoutsOf_describes`): the full names and field names of all structs of units that can be read are
words, which neither end a line nor a column. The unit of a schema has one struct to be described
(`described_unit`).
-/

set_option autoImplicit false

namespace TypeFoundry

open Source Crate Text

/-! ## Structs to be described -/

namespace Crate

/-- The full name and the fields of the struct are such as a unit can declare. -/
structure Described.Named (d : Described) : Prop where
  path : d.path.IsDeclared
  fields : ∀ f ∈ d.fields, isIdentifier f.1 = true

mutual

theorem describedIn_named {modules : List String} (hmodules : ∀ m ∈ modules, isModuleName m = true)
    {i : Item} (h : i.Named) : ∀ d ∈ describedIn modules i, d.Named := by
  cases i with
  | struct s =>
    unfold describedIn
    intro d hd
    split at hd
    · obtain rfl := List.mem_singleton.1 hd
      refine ⟨⟨hmodules, h.1⟩, fun f hf => ?_⟩
      obtain ⟨g, hg, rfl⟩ := List.mem_map.1 hf
      exact h.2 g hg
    · cases hd
  | module head items =>
    unfold describedIn
    refine describedAll_named ?_ h.2
    intro m hm
    rcases List.mem_append.1 hm with hm | hm
    · exact hmodules m hm
    · rw [List.mem_singleton.1 hm]
      exact h.1
  | use u => intro d hd; cases hd
  | enum e => intro d hd; cases hd
  | other e => intro d hd; cases hd

theorem describedAll_named {modules : List String} (hmodules : ∀ m ∈ modules, isModuleName m = true)
    {items : List Item} (h : AllNamed items) : ∀ d ∈ describedAll modules items, d.Named := by
  cases items with
  | nil => intro d hd; cases hd
  | cons i is =>
    unfold describedAll
    intro d hd
    rcases List.mem_append.1 hd with hd | hd
    · exact describedIn_named hmodules h.1 d hd
    · exact describedAll_named hmodules h.2 d hd

end

theorem described_named {units : List SourceUnit} (h : ∀ u ∈ units, AllNamed u.items) :
    ∀ d ∈ described units, d.Named := by
  intro d hd
  obtain ⟨u, hu, hd⟩ := List.mem_flatMap.1 hd
  exact describedAll_named (by simp) (h u hu) d hd

/-- The layout is that of the struct: its numbers have 64 bits, and no type in it is called by a text
that ends a line or a column. -/
structure Described.LaidOut (d : Described) (t : TypeLayout) : Prop where
  path : t.path = d.path
  fields : t.fields.map (·.name) = d.fields.map (·.1)
  size : t.size < wordBound
  align : t.align < wordBound
  typeNames : ∀ f ∈ t.fields, IsColumn f.typeName
  offsets : ∀ f ∈ t.fields, f.offset < wordBound

theorem Described.LaidOut.printable {d : Described} {t : TypeLayout} (h : d.LaidOut t)
    (hd : d.Named) : t.Printable := by
  refine ⟨?_, h.size, h.align, fun f hf => ⟨?_, h.typeNames f hf, h.offsets f hf⟩⟩
  · rw [h.path]
    exact hd.path
  · have hname : f.name ∈ d.fields.map (·.1) := by
      rw [← h.fields]
      exact List.mem_map_of_mem hf
    obtain ⟨g, hg, he⟩ := List.mem_map.1 hname
    rw [← he]
    exact isColumn_of_isIdentifier (hd.fields g hg)

end Crate

/-! ## Descriptions -/

/-- The module loads, and its descriptor is the text that describes the structs, in some order. -/
inductive Loaded.Describes (ds : List Described) : Loaded → Prop where
  | intro {bytes : List UInt8} {layouts : List TypeLayout} {ordered : List Described} :
    ordered.Perm ds → List.Forall₂ Described.LaidOut ordered layouts →
    Compiler.upToZero bytes = encodeUtf8 (Descriptor.render layouts) →
    Loaded.Describes ds (.descriptor bytes)

/-- **A description is read** as the layouts that it was written for. -/
theorem layoutsOf_describes {ds : List Described} {loaded : Loaded} (h : loaded.Describes ds)
    (hds : ∀ d ∈ ds, d.Named) : ∃ layouts ordered, Compiler.layoutsOf loaded = .ok layouts ∧
      ordered.Perm ds ∧ List.Forall₂ Described.LaidOut ordered layouts := by
  obtain ⟨hperm, hlayouts, hbytes⟩ := h
  rename_i bytes layouts ordered
  refine ⟨layouts, ordered, ?_, hperm, hlayouts⟩
  have hprintable : ∀ t ∈ layouts, t.Printable := by
    intro t ht
    obtain ⟨i, hi, rfl⟩ := List.mem_iff_getElem.1 ht
    obtain ⟨hlength, hall⟩ := List.forall₂_iff_get.1 hlayouts
    have hi' : i < ordered.length := hlength ▸ hi
    have hmem : ordered[i] ∈ ds := hperm.mem_iff.1 (List.getElem_mem hi')
    exact (hall i hi' hi).printable (hds _ hmem)
  have hread := Descriptor.read_render hprintable
  simp only [Compiler.layoutsOf, hbytes, decodeUtf8_encode, hread]

/-! ## Faithful answers -/

namespace Compiler

/-- If the answer to the crate of the targets is a module, then it describes the structs of the
targets. -/
def FaithfulTo (targets references : List SourceUnit) (reply : Invocation → Reply) : Prop :=
  ∀ (i : Invocation) (loaded : Loaded), i.text = (crateOf targets references).text →
    reply i = .success loaded → loaded.Describes (described targets)

theorem readTarget_ok {label source : String} {unit : SourceUnit}
    (h : readTarget label source = .ok unit) : SourceUnit.read source = .ok unit := by
  unfold readTarget at h
  split at h
  · rename_i unit' hread
    rw [hread, Except.ok.inj h]
  · cases h

theorem filterMap_read? {source : String} {unit : SourceUnit}
    (h : SourceUnit.read source = .ok unit) (units : List String) :
    (source :: units).filterMap SourceUnit.read? = unit :: units.filterMap SourceUnit.read? := by
  have hunit : SourceUnit.read? source = some unit := by rw [SourceUnit.read?, h]; rfl
  exact List.filterMap_cons_some hunit

/-- The targets are the units that the texts are read as. -/
theorem mapM_readTarget_ok {label : String} {units : List String} {targets : List SourceUnit}
    (h : units.mapM (readTarget label) = .ok targets) :
    targets = units.filterMap SourceUnit.read? ∧ ∀ u ∈ targets, AllNamed u.items := by
  induction units generalizing targets with
  | nil =>
    obtain rfl := Except.ok.inj h
    exact ⟨rfl, by simp⟩
  | cons source units ih =>
    rw [List.mapM_cons] at h
    cases hunit : readTarget label source with
    | error e => rw [hunit] at h; cases h
    | ok unit =>
      cases hrest : units.mapM (readTarget label) with
      | error e => rw [hunit, hrest] at h; cases h
      | ok rest =>
        rw [hunit, hrest] at h
        obtain rfl := Except.ok.inj h
        obtain ⟨rfl, hnamed⟩ := ih hrest
        have hread := readTarget_ok hunit
        refine ⟨(filterMap_read? hread units).symm, ?_⟩
        exact List.forall_mem_cons.2 ⟨SourceUnit.read_named hread, hnamed⟩

/-- A faithful answer is read as the layouts of the structs of the units. -/
theorem FaithfulTo.layouts {label : String} {units : List String}
    {targets references : List SourceUnit} {reply : Invocation → Reply} {i : Invocation}
    {loaded : Loaded} (h : FaithfulTo (units.filterMap SourceUnit.read?) references reply)
    (htargets : units.mapM (readTarget label) = .ok targets)
    (htext : i.text = (crateOf targets references).text) (hreply : reply i = .success loaded) :
    ∃ layouts ordered, layoutsOf loaded = .ok layouts ∧
      ordered.Perm (described (units.filterMap SourceUnit.read?)) ∧
      List.Forall₂ Described.LaidOut ordered layouts := by
  obtain ⟨rfl, hnamed⟩ := mapM_readTarget_ok htargets
  exact layoutsOf_describes (h i loaded htext hreply) (described_named hnamed)

end Compiler

/-! ## The unit of a schema -/

namespace Synthesis.Schema

variable (s : Schema)

/-- The struct of the schema, as it is to be described. -/
def described : Described := ⟨s.path, s.struct.namedFields.map fun f => (f.name, f.type)⟩

theorem described_names : s.described.fields.map (·.1) = s.fieldNames := by
  rw [described, List.map_map, s.fieldNames_eq]
  rfl

theorem describedAll_members (modules : List String) :
    describedAll modules s.members =
      [⟨⟨modules, s.name⟩, s.struct.namedFields.map fun f => (f.name, f.type)⟩] := by
  have himports : ∀ (paths : List (List String)) (items : List Item),
      describedAll modules (paths.map (fun path => .use (importOf path)) ++ items) =
        describedAll modules items := by
    intro paths items
    induction paths with
    | nil => rfl
    | cons path paths ih => simpa [describedAll, describedIn] using ih
  rw [members, himports]
  rfl

/-- **The unit of a schema** has one struct to be described. -/
theorem described_unit : Crate.described [s.unit] = [s.described] := by
  have henclose : ∀ outer modules : List String,
      describedAll outer (enclose modules s.members) =
        [⟨⟨outer ++ modules, s.name⟩, s.struct.namedFields.map fun f => (f.name, f.type)⟩] := by
    intro outer modules
    induction modules generalizing outer with
    | nil =>
      rw [List.append_nil]
      exact s.describedAll_members outer
    | cons m modules ih =>
      rw [enclose_cons]
      simp [describedAll, describedIn, publicModule, ih]
  show describedAll [] (enclose s.modules s.members) ++ [] = [s.described]
  rw [List.append_nil, henclose]
  rfl

end Synthesis.Schema

/-- **The module of a schema's unit** describes the struct of the schema and nothing else. -/
theorem Compiled.layouts_eq {arena : Arena} {source label : String} {origin : Origin}
    {reply : Invocation → Reply} {id : ModuleId} {p : PendingModule} {s : Synthesis.Schema}
    (hp : Compiled arena [source] label origin reply id p)
    (hread : SourceUnit.read source = .ok s.unit)
    (hfaithful : Compiler.FaithfulTo ([source].filterMap SourceUnit.read?)
      (Compiler.references arena) reply) : ∃ t, p.layouts = [t] ∧ s.described.LaidOut t := by
  obtain ⟨targets, i, loaded, htargets, hreply, htext, hlayouts⟩ := hp.described
  obtain ⟨layouts, ordered, hok, hperm, hlaidOut⟩ := hfaithful.layouts htargets htext hreply
  obtain rfl := Except.ok.inj (hlayouts.symm.trans hok)
  rw [Compiler.filterMap_read? hread, List.filterMap_nil, s.described_unit] at hperm
  rw [List.perm_singleton.1 hperm] at hlaidOut
  obtain ⟨t, rest, ht, hrest, hp⟩ := List.forall₂_cons_left_iff.1 hlaidOut
  rw [List.forall₂_nil_left_iff.1 hrest] at hp
  exact ⟨t, hp, ht⟩

end TypeFoundry
