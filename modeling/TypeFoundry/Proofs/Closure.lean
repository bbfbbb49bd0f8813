import Mathlib.Data.List.Nodup
import TypeFoundry.Proofs.Confinement
import TypeFoundry.Proofs.Listing
import TypeFoundry.Proofs.Sessions

/-!
# Known types are in every crate

A reference names its target from the root of the crate on, so the target has to be in every crate that
is compiled from then on. It is: the units of all modules go into the crate, those of superseded
versions included, so whatever the catalog knows is a struct that some unit defines
(`Foundry.Backed`), and of all definitions the latest counts. As long as no struct has the full name
of an enum, and units are read with the types they were laid out with, the latest is a struct as well
(`Tended.crate_closed`). The second condition is needed: two signs of an attribute open a comment once
the blank between them is gone (`Tended.crate_not_closed`).
-/

set_option autoImplicit false

namespace TypeFoundry

open Source Crate Synthesis Files Files.Disk

/-! ## What a crate has of a full name -/

namespace Crate

/-- What is to count for the full name: the last type that the unit defines, or else the last one that
a loaded unit defines. -/
def definition? (path : TypePath) (unit : SourceUnit) (references : List SourceUnit) : Option Item :=
  (typesOf path [unit]).getLast?.or (typesOf path references).getLast?

theorem definition?_eq (path : TypePath) (unit : SourceUnit) (references : List SourceUnit) :
    definition? path unit references = (typesOf path (references ++ [unit])).getLast? := by
  rw [definition?, typesOf_append, List.getLast?_append]

/-- The crate of the unit has just one type of the full name, the struct that is to count. -/
def HasStruct (path : TypePath) (unit : SourceUnit) (references : List SourceUnit) : Prop :=
  ∃ s body, definition? path unit references = some (.struct s) ∧
    bodiesAt path.modules (Compiler.crateOf [unit] references).items = [body] ∧
    (body.filter fun i => typeName? i = some path.name) = [.struct s]

/-- A full name that is of structs only has its struct. -/
theorem hasStruct_of_defines {path : TypePath} {unit : SourceUnit} {references : List SourceUnit}
    (hsome : ∃ u ∈ references ++ [unit], u.Defines path true)
    (hall : ∀ u ∈ references ++ [unit], ∀ isStruct, u.Defines path isStruct → isStruct = true) :
    HasStruct path unit references := by
  obtain ⟨u, hu, hdefines⟩ := hsome
  obtain ⟨_, hi, -⟩ := hdefines.mem_typesOf hu
  have hne := List.ne_nil_of_mem hi
  obtain ⟨body, hbody, htypes⟩ := types_crateOf hne
  obtain ⟨v, hv, isStruct, hkind, hdefines⟩ := defines_of_mem_typesOf (List.getLast_mem hne)
  obtain rfl := hall v hv isStruct hdefines
  cases hlast : (typesOf path (references ++ [unit])).getLast hne with
  | struct s =>
    refine ⟨s, body, ?_, hbody, by rw [htypes, hlast]⟩
    rw [definition?_eq, List.getLast?_eq_some_getLast hne, hlast]
  | _ =>
    rw [hlast] at hkind
    simp [Item.kind?] at hkind

end Crate

/-- A unit of one type defines that type only. -/
theorem defines_single {u : SourceUnit} {name : String} {isStruct : Bool}
    (h : u.items.map Item.kind? = [some (name, isStruct)]) {path : TypePath} {b : Bool} :
    u.Defines path b ↔ path = ⟨[], name⟩ ∧ b = isStruct := by
  obtain ⟨i, hitems, hkind⟩ := List.map_eq_singleton_iff.1 h
  have hleaf := isLeaf_of_typeName? (kind?_eq_some hkind)
  obtain ⟨modules, n⟩ := path
  cases modules with
  | nil => simp [SourceUnit.Defines, bodiesAt, hitems, hkind, eq_comm]
  | cons m modules => simp [SourceUnit.Defines, bodiesAt, hitems, itemsOf?_eq_none hleaf]

/-! ## Known types -/

/-- A unit of a loaded module defines the struct. -/
def Arena.Defines (a : Arena) (path : TypePath) : Prop :=
  ∃ u ∈ Compiler.references a, u.Defines path true

theorem Arena.Defines.push {a : Arena} {path : TypePath} (h : a.Defines path) (p : PendingModule) :
    (a.push p).Defines path := by
  obtain ⟨u, hu, hdefines⟩ := h
  rw [Arena.Defines, Compiler.references_push]
  exact ⟨u, List.mem_append_left _ hu, hdefines⟩

/-- The handles of the catalog. -/
def Catalog.handles (c : Catalog) : List TypeHandle := c.manifest ++ c.registry.entries

theorem Catalog.mem_handles_register {c : Catalog} {h g : TypeHandle}
    (hg : g ∈ (c.register h).2.handles) : g ∈ c.handles ∨ g = h := by
  simp only [register, Registry.register] at hg
  split at hg
  · exact .inl hg
  · rwa [handles, ← List.append_assoc, List.mem_append, List.mem_singleton] at hg

theorem mem_of_lastNamed? {path : TypePath} {hs : List TypeHandle} {h : TypeHandle}
    (hlast : lastNamed? path hs = some h) : h ∈ hs ∧ h.path = path :=
  ⟨List.mem_reverse.1 (List.mem_of_find?_eq_some hlast), by simpa using List.find?_some hlast⟩

/-- A full name that is known is that of a handle. -/
theorem Catalog.resolve_eq_some {c : Catalog} {path found : TypePath}
    (h : c.resolve path = some found) : found = path ∧ ∃ g ∈ c.handles, g.path = path := by
  obtain ⟨g, hg, rfl⟩ := Option.map_eq_some_iff.1 h
  rw [find?, Option.orElse_eq_or, Option.or_eq_some_iff] at hg
  obtain hg | ⟨-, hg⟩ := hg
  · obtain ⟨hmem, hpath⟩ := mem_of_lastNamed? hg
    exact ⟨hpath, g, List.mem_append_right _ hmem, hpath⟩
  · obtain ⟨hmem, hpath⟩ := mem_of_lastNamed? hg
    exact ⟨hpath, g, List.mem_append_left _ hmem, hpath⟩

/-- All types that are known are structs of loaded units. -/
def Foundry.Backed (f : Foundry) : Prop := ∀ h ∈ f.catalog.handles, f.arena.Defines h.path

theorem Foundry.Backed.resolve {f : Foundry} (h : f.Backed) {path found : TypePath}
    (hresolve : f.catalog.resolve path = some found) : f.arena.Defines path := by
  obtain ⟨-, g, hg, rfl⟩ := Catalog.resolve_eq_some hresolve
  exact h g hg

/-- The module that joins defines the types of its handles. -/
theorem Compiled.defines {arena : Arena} {units : List String} {label : String} {origin : Origin}
    {reply : Invocation → Reply} {id : ModuleId} {p : PendingModule}
    (hp : Compiled arena units label origin reply id p)
    (hlisted : Compiler.ListedBy (units.filterMap SourceUnit.read?) (Compiler.references arena) reply)
    {h : TypeHandle} (hh : h ∈ (arena.next p).types) : (arena.push p).Defines h.path := by
  obtain ⟨t, ht, rfl⟩ := List.mem_map.1 hh
  have hpath : t.path ∈ (Crate.described (units.filterMap SourceUnit.read?)).map (·.path) :=
    (hp.paths_perm hlisted).mem_iff.1 (List.mem_map_of_mem ht)
  obtain ⟨u, hu, hdefines⟩ := defines_of_mem_described hpath
  refine ⟨u, ?_, hdefines⟩
  rw [Compiler.references_push, hp.units_eq]
  exact List.mem_append_right _ hu

/-! ## Faithful lists -/

/-- Layouts with the names of the structs and of their fields are what is printed of them. -/
theorem forall₂_listed {ds : List Described} {layouts : List TypeLayout}
    (hnames : ds.map (fun d => (d.path, d.fields.map (·.1))) =
      layouts.map fun t => (t.path, t.fields.map (·.name)))
    (hlines : ∀ t ∈ layouts, ∀ f ∈ t.fields, '\n' ∉ f.typeName.toList) :
    List.Forall₂ Described.Listed ds layouts := by
  induction ds generalizing layouts with
  | nil =>
    obtain rfl := List.map_eq_nil_iff.1 hnames.symm
    exact .nil
  | cons d ds ih =>
    obtain ⟨t, layouts, rfl, hhead, htail⟩ := List.map_eq_cons_iff.1 hnames.symm
    obtain ⟨hpath, hfields⟩ := Prod.mk.inj hhead
    obtain ⟨hline, hlines⟩ := List.forall_mem_cons.1 hlines
    exact .cons ⟨hpath, hfields, hline⟩ (ih htail.symm hlines)

/-- A toolchain that always prints layouts with the names of the structs lists these. -/
theorem Compiler.listedBy_of_names {targets references : List SourceUnit}
    {reply : Invocation → Reply} {bytes : List UInt8} (layouts : List TypeLayout)
    (hreply : ∀ i, reply i = .success (.descriptor bytes))
    (hbytes : Compiler.upToZero bytes = Text.encodeUtf8 (Descriptor.render layouts))
    (hnames : (Crate.described targets).map (fun d => (d.path, d.fields.map (·.1))) =
      layouts.map fun t => (t.path, t.fields.map (·.name)))
    (hlines : ∀ t ∈ layouts, ∀ f ∈ t.fields, '\n' ∉ f.typeName.toList) :
    Compiler.ListedBy targets references reply := by
  intro i loaded _ hloaded
  obtain rfl := Reply.success.inj ((hreply i).symm.trans hloaded)
  exact .intro (List.Perm.refl _) (forall₂_listed hnames hlines) hbytes

/-- The toolchain lists the structs of the stored units, if opening a foundry compiles them. -/
def World.ListsAtStart (w : World) (s : Settings) : Prop :=
  ∀ units, Foundry.Preloads s w units →
    Compiler.ListedBy (units.filterMap SourceUnit.read?) (Compiler.references .empty) w.nextReply

/-- The toolchain lists the structs of the unit that the request prepares. -/
def World.ListsAt (w : World) (f : Foundry) (q : Request) : Prop :=
  ∀ name source path, q.Prepares f w name source path →
    Compiler.ListedBy ([source].filterMap SourceUnit.read?) (Compiler.references f.arena) w.nextReply

theorem Foundry.Started.backed {s : Settings} {w : World} {f : Foundry} (h : Started s w f)
    (hlists : w.ListsAtStart s) : f.Backed := by
  cases h with
  | empty _ hcatalog =>
    rw [Backed, hcatalog]
    intro h hh
    cases hh
  | preloaded hunits hp harena hcatalog =>
    rw [Backed, harena, hcatalog]
    intro h hh
    refine hp.defines (hlists _ hunits) ?_
    simpa [Catalog.handles, Catalog.extend, Catalog.empty, Registry.empty] using hh

/-- **Establishing a type** keeps all known types backed. -/
theorem Foundry.Backed.established {f f' : Foundry} {w w' : World} {name source : String}
    {path : TypePath} (h : f.Backed) (hestablished : Established f w name source path f' w')
    (hlists : Compiler.ListedBy ([source].filterMap SourceUnit.read?)
      (Compiler.references f.arena) w.nextReply) : f'.Backed := by
  obtain ⟨p, handle, hp, hfind, rfl⟩ := hestablished.admitted
  obtain ⟨hmem, -, -, -⟩ := handle_of_find? hfind
  intro g hg
  obtain hg | rfl := Catalog.mem_handles_register hg
  · exact (h g hg).push p
  · exact hp.defines hlists hmem

/-! ## Structs and enums -/

/-- The unit is there when the foundry is opened: it is compiled at the start, or the store has it. -/
def Foundry.Stores (s : Settings) (w₀ : World) (u : SourceUnit) : Prop :=
  (∃ units, Preloads s w₀ units ∧ u ∈ units.filterMap SourceUnit.read?) ∨
    ∃ name text, Store.unit? ⟨s.sourceDir⟩ w₀ name = some (.text text) ∧ SourceUnit.read text = .ok u

/-- No struct of the units that are there has the full name of an enum of theirs. -/
def Foundry.Apart (s : Settings) (w₀ : World) : Prop :=
  ∀ u v, Stores s w₀ u → Stores s w₀ v → ∀ path, u.Defines path true → ¬ v.Defines path false

/-- A full name is of an enum if it is of one of the units that were there, and else of a struct. -/
def Foundry.OfKind (s : Settings) (w₀ : World) (path : TypePath) (isStruct : Bool) : Prop :=
  isStruct = false ↔ ∃ u, Stores s w₀ u ∧ u.Defines path false

theorem Foundry.OfKind.eq_true {s : Settings} {w₀ : World} {path : TypePath} {isStruct : Bool}
    (h : OfKind s w₀ path isStruct) (htrue : OfKind s w₀ path true) : isStruct = true := by
  cases isStruct with
  | true => rfl
  | false => exact (htrue.2 (h.1 rfl)).symm

theorem Foundry.Stores.within {s : Settings} {w₀ : World} {u : SourceUnit} (hu : Stores s w₀ u)
    (hapart : Apart s w₀) : u.Within (OfKind s w₀) := by
  intro path isStruct hdefines
  cases isStruct with
  | false => exact ⟨fun _ => ⟨u, hu, hdefines⟩, fun _ => rfl⟩
  | true => exact ⟨nofun, fun ⟨v, hv, henum⟩ => (hapart u v hu hv path hdefines henum).elim⟩

/-- A field that is added to the text of a schema leaves the types. -/
theorem IsSchemaText.defines_addField {name old text : String} {schema : Schema} {r : FieldRequest}
    {resolve : TypePath → Option TypePath} (hs : IsSchemaText name old schema)
    (hcheck : r.check = .ok ()) (hadd : Synthesis.addField old name r resolve = .ok text)
    {unit u : SourceUnit} (hread : SourceUnit.read old = .ok unit)
    (hread' : SourceUnit.read text = .ok u) {path : TypePath} {isStruct : Bool}
    (h : u.Defines path isStruct) : unit.Defines path isStruct := by
  have hr : isItemName r.name = true := by
    obtain ⟨hwell, rfl, rfl⟩ := hs
    obtain ⟨s', hs', hunit⟩ := Schema.read_text hwell
    obtain ⟨unit', edited, hunit', hedited, -⟩ := addField_ok hadd
    obtain rfl := Except.ok.inj (hunit'.symm.trans hunit)
    rw [← Schema.name_congr hs'] at hedited
    rw [isItemName, isIdentifier_of_addFieldTo hedited,
      not_isReserved_of_checkName (Request.checkName_of_requireName hcheck)]
    rfl
  obtain ⟨v, imported, -, hs'⟩ := hs.addField hr hadd
  exact (hs.defines hread path isStruct).2 ((hs'.defines hread' path isStruct).1 h)

namespace Request

/-- The type that the request makes does not have the full name of an enum that was there. -/
def Apart (s : Settings) (w₀ : World) (f : Foundry) : Request → Prop
  | .create r => ∀ u, Foundry.Stores s w₀ u → ¬ u.Defines ⟨f.modules, r.name⟩ false
  | .extend _ _ => True

/-- A unit that no request wrote is laid out with the further field so that it is read with no other
types than it has. -/
def ReadsBack (f : Foundry) (w : World) : Request → Prop
  | .create _ => True
  | .extend name r => ∀ old unit edited u, f.store.unit? w name = some (.text old) →
      (∀ schema, ¬ IsSchemaText name old schema) → SourceUnit.read old = .ok unit →
      addFieldTo unit name r f.catalog.resolve = .ok edited →
      areFinished edited.items = true → SourceUnit.read edited.text = .ok u →
      ∀ path isStruct, u.Defines path isStruct → edited.Defines path isStruct

/-- The type that the request refers to, by the full name under which it is known. -/
def referenced (f : Foundry) : Request → Option TypePath
  | .extend _ ⟨_, .reference, target⟩ =>
    (TypePath.parse (Text.trim (target.getD ""))).bind f.catalog.resolve
  | _ => none

section

variable {s : Settings} {w₀ : World} {f : Foundry} {w : World} {q : Request}

/-- What a request prepares for a type defines structs only, or what a unit of the store defines. -/
theorem ReadsBack.defines (h : q.ReadsBack f w) {name source : String} {path : TypePath}
    (hprepares : q.Prepares f w name source path) {u : SourceUnit}
    (hread : SourceUnit.read source = .ok u) :
    (∃ r, q = .create r ∧ ∀ p isStruct, u.Defines p isStruct →
      p = ⟨f.modules, r.name⟩ ∧ isStruct = true) ∨
    ∃ old unit, f.store.unit? w name = some (.text old) ∧ SourceUnit.read old = .ok unit ∧
      ∀ p isStruct, u.Defines p isStruct → unit.Defines p isStruct := by
  have hname := isIdentifier_of_isItemName hprepares.isItemName
  cases hprepares with
  | @create r _ hcheck hnew =>
    exact .inl ⟨r, rfl, fun p isStruct => ((isSchemaText_of_newType hnew).defines hread p isStruct).1⟩
  | @extend _ old _ r _ _ hcheck hold hpath hadd =>
    have hunit := read_eq hold
    rw [place_path hname] at hunit
    obtain ⟨unit, edited, hunit', hedited, hfinished, rfl⟩ := addField_ok hadd
    refine .inr ⟨old, unit, hunit, hunit', fun p isStruct hdefines => ?_⟩
    by_cases hschema : ∃ schema, IsSchemaText name old schema
    · obtain ⟨schema, hs⟩ := hschema
      exact hs.defines_addField hcheck hadd hunit' hread hdefines
    · have hold := not_exists.1 hschema
      have hdefines' := h old unit edited u hunit hold hunit' hedited hfinished hread p isStruct hdefines
      exact hdefines'.of_looksLike (addFieldTo_looksLike hedited)

/-- What a request prepares keeps the kinds of full names. -/
theorem ReadsBack.within (h : q.ReadsBack f w) (hapart : q.Apart s w₀ f)
    (hconfined : Confined (Foundry.OfKind s w₀) f w) :
    q.PreparesWithin (Foundry.OfKind s w₀) f w := by
  intro name source path u hprepares hread p isStruct hdefines
  obtain ⟨r, rfl, hall⟩ | ⟨old, unit, hunit, hold, hall⟩ := h.defines hprepares hread
  · obtain ⟨rfl, rfl⟩ := hall p isStruct hdefines
    exact ⟨nofun, fun ⟨v, hv, henum⟩ => (hapart v hv henum).elim⟩
  · exact hconfined.stored name old unit hunit hold p isStruct (hall p isStruct hdefines)

/-- A reference field is written with the path of the type that the request refers to. -/
theorem writes_referenced {name : String} {r : FieldRequest} {unit edited : SourceUnit}
    (hkind : r.kind = .reference) (h : addFieldTo unit name r f.catalog.resolve = .ok edited) :
    ∃ target path needed, (extend name r).referenced f = some target ∧
      edited = { unit with
        items := modifyModule
          (editItems name (publicField r.name (referenceType target)) needed) path unit.items } := by
  obtain ⟨path, type, needed, htype, hedited⟩ := addFieldTo_ok h
  obtain ⟨field, kind, asked⟩ := r
  obtain rfl : kind = .reference := hkind
  obtain ⟨target, htarget, rfl⟩ : ∃ target, (extend name ⟨field, .reference, asked⟩).referenced f =
      some target ∧ type = referenceType target := by
    simp only [fieldType, primitiveName?] at htype
    split at htype
    · cases htype
    · split at htype
      · cases htype
      · rename_i target htarget
        refine ⟨target, htarget, ?_⟩
        repeat' split at htype
        all_goals first
          | cases htype; done
          | exact (Prod.mk.inj (Except.ok.inj htype)).1.symm
  exact ⟨target, path, needed, htarget, hedited⟩

end

end Request

/-! ## Runs -/

/-- A foundry that was opened in the world and has served requests since; `targets` are the types that
it wrote references to. The toolchain listed the structs of whatever it compiled. -/
inductive Tended (s : Settings) (w₀ : World) : List TypePath → Foundry → World → Prop where
  | opened {f : Foundry} {w : World} :
    w₀.ListsAtStart s → (Foundry.start s).run w₀ = (.ok f, w) → Tended s w₀ [] f w
  | served {targets : List TypePath} {f f' : Foundry} {w w' : World} {q : Request} {a : Answer} :
    Tended s w₀ targets f w → w.ListsAt f q → q.Apart s w₀ f → q.ReadsBack f w →
    q.serve (f, w) = (.ok a, f', w') → Tended s w₀ (targets ++ (q.referenced f).toList) f' w'
  | declined {targets : List TypePath} {f f' : Foundry} {w w' : World} {q : Request} {h : Halt} :
    Tended s w₀ targets f w → q.serve (f, w) = (.error h, f', w') → Tended s w₀ targets f' w'

namespace Tended

variable {s : Settings} {w₀ w : World} {targets : List TypePath} {f : Foundry}

/-- What holds of a foundry all through a run. -/
structure Sound (s : Settings) (w₀ : World) (targets : List TypePath) (f : Foundry) (w : World) :
    Prop where
  store : f.store = ⟨s.sourceDir⟩
  leads : w₀.Leads w
  confined : Confined (Foundry.OfKind s w₀) f w
  backed : f.Backed
  targets : ∀ path ∈ targets, f.arena.Defines path

theorem Sound.notNamedFor (h : Sound s w₀ targets f w)
    (hfresh : ∀ k, Store.NotNamedFor ⟨s.sourceDir⟩ w₀ (w₀.ids k)) :
    f.store.NotNamedFor w (w.ids w.drawn) := by
  rw [h.store]
  exact Store.NotNamedFor.of_leads hfresh h.leads w.drawn

theorem Sound.referenced (h : Sound s w₀ targets f w) {q : Request} {path : TypePath}
    (hpath : q.referenced f = some path) : f.arena.Defines path := by
  obtain ⟨asked, hresolve⟩ : ∃ asked, f.catalog.resolve asked = some path := by
    unfold Request.referenced at hpath
    split at hpath
    · obtain ⟨asked, -, hresolve⟩ := Option.bind_eq_some_iff.1 hpath
      exact ⟨asked, hresolve⟩
    · cases hpath
  obtain ⟨rfl, -⟩ := Catalog.resolve_eq_some hresolve
  exact h.backed.resolve hresolve

theorem Sound.opened (hapart : Foundry.Apart s w₀)
    (hfresh : ∀ k, Store.NotNamedFor ⟨s.sourceDir⟩ w₀ (w₀.ids k)) (hlists : w₀.ListsAtStart s)
    (hrun : (Foundry.start s).run w₀ = (.ok f, w)) : Sound s w₀ [] f w := by
  obtain ⟨hstore, -, hstarted, hleads, -⟩ := (Foundry.start_ends s).of_ok hrun
  refine ⟨hstore, hleads, ?_, hstarted.backed hlists, by simp⟩
  refine Foundry.start_confined hrun (hfresh _) (fun units hunits u hu => ?_) ?_
  · exact Foundry.Stores.within (.inl ⟨units, hunits, hu⟩) hapart
  · intro name text u hunit hread
    exact Foundry.Stores.within (.inr ⟨name, text, hunit, hread⟩) hapart

/-- **A request that succeeds** leaves all types that are known or referred to in loaded units. -/
theorem Sound.served {f' : Foundry} {w' : World} {q : Request} {a : Answer}
    (h : Sound s w₀ targets f w) (hfresh : ∀ k, Store.NotNamedFor ⟨s.sourceDir⟩ w₀ (w₀.ids k))
    (hlists : w.ListsAt f q) (hapart : q.Apart s w₀ f) (hreads : q.ReadsBack f w)
    (hrun : q.serve (f, w) = (.ok a, f', w')) :
    Sound s w₀ (targets ++ (q.referenced f).toList) f' w' := by
  have hconfined := h.confined.serve (h.notNamedFor hfresh) hrun
    fun _ _ => hreads.within hapart h.confined
  obtain ⟨name, source, hprepares, hestablished⟩ := Request.serve_ok hrun
  refine ⟨(Request.serve_store hrun).trans h.store, h.leads.trans (Request.serve_leads hrun),
    hconfined, h.backed.established hestablished (hlists _ _ _ hprepares), fun path hpath => ?_⟩
  have hdefines : f.arena.Defines path := by
    obtain hpath | hpath := List.mem_append.1 hpath
    · exact h.targets path hpath
    · exact h.referenced (Option.mem_toList.1 hpath)
  obtain ⟨p, handle, -, -, hf⟩ := hestablished.admitted
  obtain rfl : f' = _ := hf
  exact hdefines.push p

theorem Sound.declined {f' : Foundry} {w' : World} {q : Request} {e : Halt}
    (h : Sound s w₀ targets f w) (hfresh : ∀ k, Store.NotNamedFor ⟨s.sourceDir⟩ w₀ (w₀.ids k))
    (hrun : q.serve (f, w) = (.error e, f', w')) : Sound s w₀ targets f' w' := by
  have hconfined := h.confined.serve (h.notNamedFor hfresh) hrun nofun
  obtain ⟨hf, -⟩ := Request.serve_error hrun
  obtain rfl : f' = f := hf
  exact ⟨h.store, h.leads.trans (Request.serve_leads hrun), hconfined, h.backed, h.targets⟩

/-- **The invariant of runs.** -/
theorem sound (h : Tended s w₀ targets f w) (hapart : Foundry.Apart s w₀)
    (hfresh : ∀ k, Store.NotNamedFor ⟨s.sourceDir⟩ w₀ (w₀.ids k)) : Sound s w₀ targets f w := by
  induction h with
  | opened hlists hrun => exact .opened hapart hfresh hlists hrun
  | served _ hlists hmakes hreads hrun ih => exact ih.served hfresh hlists hmakes hreads hrun
  | declined _ hrun ih => exact ih.declined hfresh hrun

end Tended

/-! ## A world with a unit -/

/-- The unit that is there. -/
def nodeText : String := "struct T {}"

/-- A world with one unit and nothing else. Its toolchain answers the first crate with the type of the
unit, and all others with that type and a reference in it. -/
def World.planted : World :=
  { World.fresh with
    disk := ⟨[(["units"], .directory), (["units", "T.rs"], .file (.text nodeText))]⟩
    toolchain := ⟨fun _ => none, fun n _ => .success (.descriptor (
      (if n = 0 then "type\tT\t0\t1\n" else "type\tT\t8\t8\nfield\tT\tnext\tOption\t0\n").toList.map
        fun c => .ofNat c.toNat))⟩ }

namespace Foundry

/-- The settings to compile the unit at the start. -/
def plantedSettings : Settings := { freshSettings with preload := true }

/-- The module of the unit. -/
def plantedModule : LoadedModule :=
  Arena.empty.next ⟨⟨.ofNat 128 0⟩, .assembly,
    "build/forge_assembly_00000000000000000000000000000000/libforge_assembly_00000000000000000000000000000000.so",
    [nodeText], [⟨⟨[], "T"⟩, 0, 1, []⟩]⟩

/-- The foundry that is opened there. -/
def planted : Foundry :=
  { fresh with arena := ⟨[plantedModule]⟩, catalog := ⟨plantedModule.types, .empty⟩ }

theorem start_planted : ∃ w, (start plantedSettings).run .planted = (.ok planted, w) := by
  refine ⟨_, Prod.ext ?_ rfl⟩
  decide +kernel

end Foundry

theorem nodeText_read : ∃ u, SourceUnit.read nodeText = .ok u ∧
    u.items.map Item.kind? = [some ("T", true)] := by
  have h : ((SourceUnit.read? nodeText).map fun u => u.items.map Item.kind?) =
      some [some ("T", true)] := by decide +kernel
  obtain ⟨u, hu, hkinds⟩ := Option.map_eq_some_iff.1 h
  exact ⟨u, Compiler.read?_eq_some.1 hu, hkinds⟩

theorem planted_units {units : List String}
    (h : Foundry.Preloads Foundry.plantedSettings .planted units) : units = [nodeText] := by
  have hstored : ((Foundry.storedUnits ["units"]).run .planted).1 = .ok [nodeText] := by
    decide +kernel
  exact h.units_eq hstored

theorem planted_stores {u : SourceUnit} (h : Foundry.Stores Foundry.plantedSettings .planted u) :
    SourceUnit.read nodeText = .ok u := by
  obtain ⟨units, hunits, hu⟩ | ⟨name, text, hunit, hread⟩ := h
  · obtain rfl := planted_units hunits
    simpa [Compiler.read?_eq_some] using hu
  · rw [Store.unit?, file?_eq_some, entry?, if_neg (by simp)] at hunit
    obtain ⟨e, he, htext⟩ := Option.map_eq_some_iff.1 hunit
    have hmem := List.mem_of_find?_eq_some he
    obtain rfl : text = nodeText := by
      rcases List.mem_cons.1 hmem with rfl | hmem
      · cases htext
      · obtain rfl := List.mem_singleton.1 hmem
        exact (Content.text.inj (Entry.file.inj htext)).symm
    exact hread

theorem planted_apart : Foundry.Apart Foundry.plantedSettings .planted := by
  intro u v _ hv path _ henum
  obtain ⟨unit, hread, hkinds⟩ := nodeText_read
  obtain rfl := Except.ok.inj ((planted_stores hv).symm.trans hread)
  cases ((defines_single hkinds).1 henum).2

theorem planted_lists : World.planted.ListsAtStart Foundry.plantedSettings := by
  intro units hunits
  obtain rfl := planted_units hunits
  exact Compiler.listedBy_of_names [⟨⟨[], "T"⟩, 0, 1, []⟩] (fun _ => rfl) (by decide +kernel)
    (by decide +kernel) (by decide)

/-- A field that refers to the type is added to it. -/
def nodeRequest : Request := .extend "T" ⟨"next", .reference, some "T"⟩

theorem nodeRequest_readsBack {w : World}
    (hunit : Foundry.planted.store.unit? w "T" = some (.text nodeText)) :
    nodeRequest.ReadsBack .planted w := by
  intro old unit edited u hold _ hread hedited _ hread' path isStruct hdefines
  obtain rfl := Content.text.inj (Option.some.inj (hold.symm.trans hunit))
  obtain ⟨unit', hread'', hkinds⟩ := nodeText_read
  obtain rfl := Except.ok.inj (hread''.symm.trans hread)
  have hagain : ((SourceUnit.read? nodeText).bind fun unit =>
      (addFieldTo unit "T" ⟨"next", .reference, some "T"⟩ Foundry.planted.catalog.resolve).toOption.bind
        fun edited => (SourceUnit.read? edited.text).map fun u => u.items.map Item.kind?) =
      some [some ("T", true)] := by decide +kernel
  rw [Compiler.read?_eq_some.2 hread, Option.bind_some, hedited, Except.toOption, Option.bind_some]
    at hagain
  obtain ⟨u', hu', hkinds'⟩ := Option.map_eq_some_iff.1 hagain
  obtain rfl := Option.some.inj ((Compiler.read?_eq_some.2 hread').symm.trans hu')
  have hnode := (defines_single hkinds).2 ((defines_single hkinds').1 hdefines)
  exact hnode.of_looksLike (addFieldTo_looksLike hedited).symm

/-! ## The crates of a run -/

namespace Tended

/-- **Known types are in every crate.** Whenever a request hands a crate over, it is that of the unit
which the request prepares. Each full name that the catalog knows, that a reference was written to, or
that the request refers to, is in the crate as one struct: the unit's, if the unit defines it, and else
that of the last module whose units do. -/
theorem crate_closed {s : Settings} {w₀ w w' : World} {targets : List TypePath} {f f' : Foundry}
    {q : Request} {r : Except Halt Answer}
    (h : Tended s w₀ targets f w) (hapart : Foundry.Apart s w₀)
    (hfresh : ∀ k, Store.NotNamedFor ⟨s.sourceDir⟩ w₀ (w₀.ids k)) (hreads : q.ReadsBack f w)
    (hrun : q.serve (f, w) = (r, f', w')) (hhanded : w'.invocations ≠ w.invocations) :
    ∃ name source path unit i, q.Prepares f w name source path ∧
      SourceUnit.read source = .ok unit ∧ w'.invocations = w.invocations ++ [i] ∧
      i.text = (Compiler.crateOf [unit] (Compiler.references f.arena)).text ∧
      ∀ p, (f.catalog.resolve p).isSome = true ∨ p ∈ targets ∨ q.referenced f = some p →
        HasStruct p unit (Compiler.references f.arena) := by
  have hsound := h.sound hapart hfresh
  obtain hnone | ⟨name, source, path, hprepares, i, unit, hread, htext, hinvocations⟩ :=
    Request.serve_hands hrun
  · exact (hhanded hnone).elim
  refine ⟨name, source, path, unit, i, hprepares, hread, hinvocations, htext, fun p hp => ?_⟩
  obtain ⟨u, hu, hdefines⟩ : f.arena.Defines p := by
    rcases hp with hp | hp | hp
    · obtain ⟨found, hfound⟩ := Option.isSome_iff_exists.1 hp
      exact hsound.backed.resolve hfound
    · exact hsound.targets p hp
    · exact hsound.referenced hp
  have hkind := hsound.confined.loaded u hu p true hdefines
  refine hasStruct_of_defines ⟨u, List.mem_append_left _ hu, hdefines⟩ fun v hv isStruct hv' => ?_
  obtain hv | hv := List.mem_append.1 hv
  · exact (hsound.confined.loaded v hv p isStruct hv').eq_true hkind
  · -- the unit under way is no module yet, so it is not among those that are confined
    obtain rfl := List.mem_singleton.1 hv
    obtain ⟨_, -, hall⟩ | ⟨old, stored, hstored, hold, hall⟩ := hreads.defines hprepares hread
    · exact (hall p isStruct hv').2
    · exact (hsound.confined.stored name old stored hstored hold p isStruct
        (hall p isStruct hv')).eq_true hkind

/-- The type of the unit is in the crate that it is compiled in with a further field. -/
theorem crate_closed_next : ∃ w f' w', (Foundry.start Foundry.plantedSettings).run .planted =
      (.ok .planted, w) ∧
    nodeRequest.serve (.planted, w) =
      (.ok (.extended ⟨⟨[], "T"⟩, "next", "units/T.rs"⟩), f', w') ∧
    ∃ unit i, w'.invocations = w.invocations ++ [i] ∧
      i.text = (Compiler.crateOf [unit] (Compiler.references Foundry.planted.arena)).text ∧
      HasStruct ⟨[], "T"⟩ unit (Compiler.references Foundry.planted.arena) := by
  have hanswer : (nodeRequest.serve (.planted,
      ((Foundry.start Foundry.plantedSettings).run .planted).2)).1 =
      .ok (.extended ⟨⟨[], "T"⟩, "next", "units/T.rs"⟩) := by decide +kernel
  obtain ⟨w, hstart⟩ := Foundry.start_planted
  rw [hstart] at hanswer
  obtain ⟨⟨f', w'⟩, hserve⟩ : ∃ s, nodeRequest.serve (.planted, w) =
      (.ok (.extended ⟨⟨[], "T"⟩, "next", "units/T.rs"⟩), s) :=
    ⟨(nodeRequest.serve (.planted, w)).2, Prod.ext hanswer rfl⟩
  have htended : Tended Foundry.plantedSettings .planted [] .planted w :=
    .opened planted_lists hstart
  -- the unit is still there
  have hunit : Foundry.planted.store.unit? w "T" = some (.text nodeText) := by
    rw [Foundry.start_unit? hstart (Foundry.notNamedFor_fresh _)]
    decide +kernel
  have hhanded : w'.invocations ≠ w.invocations := by
    obtain ⟨-, -, -, -, i, -, -, -, hinvocations⟩ := Request.serve_ok_hands hserve
    dsimp only at hinvocations
    simp [hinvocations]
  obtain ⟨-, -, -, unit, i, -, -, hinvocations, htext, hall⟩ :=
    htended.crate_closed planted_apart Foundry.notNamedFor_fresh (nodeRequest_readsBack hunit) hserve hhanded
  exact ⟨w, f', w', hstart, hserve, unit, i, hinvocations, htext, hall _ (.inl rfl)⟩

end Tended

/-! ## A unit that is read otherwise than it was laid out -/

/-- Of the items right in a unit one at most is a type of the full name, if no two have one name. -/
theorem length_typesOf_flat {u : SourceUnit} (hflat : u.items.all Item.isLeaf = true)
    (hnames : (u.items.filterMap typeName?).Nodup) (path : TypePath) :
    (typesOf path [u]).length ≤ 1 := by
  obtain ⟨modules, name⟩ := path
  rw [List.all_eq_true] at hflat
  cases modules with
  | nil =>
    have hleaves : u.items.filter Item.isLeaf = u.items := List.filter_eq_self.2 hflat
    have hcount := List.nodup_iff_count_le_one.1 hnames name
    rw [List.count_filterMap, List.countP_eq_length_filter] at hcount
    simpa [typesOf, leavesOf, leavesAt, bodiesAt, hleaves, beq_eq_decide] using hcount
  | cons m modules =>
    have hinner : u.items.filterMap (Item.itemsOf? m) = [] :=
      List.filterMap_eq_nil_iff.2 fun i hi => itemsOf?_eq_none (hflat i hi) m
    simp [typesOf, leavesOf, leavesAt, bodiesAt, hinner]

/-- The two signs of the first attribute are laid out without the blank. They open a comment then, which
ends in the text of the other attribute, and the first struct is lost in it. -/
def commentedText : String := "#[a(/ *)] struct S {} #[a(\"*/)] enum S {} #[a(/*\" * /)] struct T {}"

/-- What the unit is laid out as with a field that refers to the first struct in the second one. -/
def commentedNext : String :=
  "#[a(/*)]\nstruct S {}\n#[a(\"*/)] enum S {} #[a(/*\"*/)]\nstruct T \x7b\n    pub next: Option<Box<crate::S>>,\n\x7d\n"

/-- A world with this unit and nothing else. Its toolchain lists the two structs, and then the one with
the field. -/
def World.commented : World :=
  { World.fresh with
    disk := ⟨[(["units"], .directory), (["units", "T.rs"], .file (.text commentedText))]⟩
    toolchain := ⟨fun _ => none, fun n _ => .success (.descriptor (
      (if n = 0 then "type\tS\t0\t1\ntype\tT\t0\t1\n"
        else "type\tT\t8\t8\nfield\tT\tnext\tOption\t0\n").toList.map fun c => .ofNat c.toNat))⟩ }

/-- The field is added. -/
def commentedRequest : Request := .extend "T" ⟨"next", .reference, some "S"⟩

namespace Foundry

/-- The module of the unit. -/
def commentedModule : LoadedModule :=
  Arena.empty.next ⟨⟨.ofNat 128 0⟩, .assembly,
    "build/forge_assembly_00000000000000000000000000000000/libforge_assembly_00000000000000000000000000000000.so",
    [commentedText], [⟨⟨[], "S"⟩, 0, 1, []⟩, ⟨⟨[], "T"⟩, 0, 1, []⟩]⟩

/-- The foundry that is opened there. -/
def commented : Foundry :=
  { fresh with arena := ⟨[commentedModule]⟩, catalog := ⟨commentedModule.types, .empty⟩ }

/-- The foundry compiles the unit when it is opened, and once more for the request. -/
theorem start_commented : ∃ w, (start plantedSettings).run .commented = (.ok commented, w) ∧
    w.disk.file? (place w.cwd (commented.store.path "T")) = some (.text commentedText) ∧
    w.invocations.length = 1 ∧
    (commentedRequest.serve (commented, w)).2.2.invocations.length = 2 := by
  let opened := (start plantedSettings).run .commented
  have h : (opened.1, opened.2.disk.file? (place opened.2.cwd (commented.store.path "T")),
      opened.2.invocations.length,
      (commentedRequest.serve (commented, opened.2)).2.2.invocations.length) =
      (.ok commented, some (.text commentedText), 1, 2) := by decide +kernel
  simp only [Prod.mk.injEq] at h
  exact ⟨opened.2, Prod.ext h.1 rfl, h.2⟩

theorem commented_units {units : List String} (h : Preloads plantedSettings .commented units) :
    units = [commentedText] := by
  have hstored : ((storedUnits ["units"]).run .commented).1 = .ok [commentedText] := by
    decide +kernel
  exact h.units_eq hstored

end Foundry

/-- The unit has two structs, right in it. -/
theorem commentedText_read : ∃ u, SourceUnit.read? commentedText = some u ∧
    u.items.all Item.isLeaf = true ∧ u.items.filterMap typeName? = ["S", "T"] ∧
    (Crate.described [u]).map (fun d => (d.path, d.fields.map (·.1))) =
      [(⟨[], "S"⟩, []), (⟨[], "T"⟩, [])] := by
  have h : ((SourceUnit.read? commentedText).map fun u =>
      (u.items.all Item.isLeaf, u.items.filterMap typeName?,
        (Crate.described [u]).map fun d => (d.path, d.fields.map (·.1)))) =
      some (true, ["S", "T"], [(⟨[], "S"⟩, []), (⟨[], "T"⟩, [])]) := by decide +kernel
  obtain ⟨u, hu, he⟩ := Option.map_eq_some_iff.1 h
  simp only [Prod.mk.injEq] at he
  exact ⟨u, hu, he⟩

/-- With the field, the unit has an enum in the place of the first struct. -/
theorem commentedNext_read : ∃ u, SourceUnit.read? commentedNext = some u ∧
    (typesOf ⟨[], "S"⟩ [u]).map Item.kind? = [some ("S", false)] ∧
    (Crate.described [u]).map (fun d => (d.path, d.fields.map (·.1))) =
      [(⟨[], "T"⟩, ["next"])] := by
  have h : ((SourceUnit.read? commentedNext).map fun u =>
      ((typesOf ⟨[], "S"⟩ [u]).map Item.kind?,
        (Crate.described [u]).map fun d => (d.path, d.fields.map (·.1)))) =
      some ([some ("S", false)], [(⟨[], "T"⟩, ["next"])]) := by decide +kernel
  obtain ⟨u, hu, he⟩ := Option.map_eq_some_iff.1 h
  exact ⟨u, hu, Prod.mk.inj he⟩

theorem commented_lists : World.commented.ListsAtStart Foundry.plantedSettings := by
  intro units hunits
  obtain rfl := Foundry.commented_units hunits
  obtain ⟨u, hu, -, -, hnames⟩ := commentedText_read
  rw [List.filterMap_cons_some hu, List.filterMap_nil]
  exact Compiler.listedBy_of_names [⟨⟨[], "S"⟩, 0, 1, []⟩, ⟨⟨[], "T"⟩, 0, 1, []⟩] (fun _ => rfl)
    (by decide +kernel) hnames (by decide)

/-- No two types of the unit have one full name. -/
theorem commented_distinct {units : List String}
    (h : Foundry.Preloads Foundry.plantedSettings .commented units) (path : TypePath) :
    (typesOf path (units.filterMap SourceUnit.read?)).length ≤ 1 := by
  obtain rfl := Foundry.commented_units h
  obtain ⟨u, hu, hflat, hnames, -⟩ := commentedText_read
  rw [List.filterMap_cons_some hu, List.filterMap_nil]
  exact length_typesOf_flat hflat (by rw [hnames]; decide) path

theorem commentedRequest_prepares {w : World}
    (hunit : w.disk.file? (place w.cwd (Foundry.commented.store.path "T")) =
      some (.text commentedText)) {name source : String} {path : TypePath}
    (h : commentedRequest.Prepares .commented w name source path) : source = commentedNext := by
  cases h with
  | extend _ _ hold _ hadd =>
    obtain rfl := Content.text.inj (Option.some.inj ((read_eq hold).symm.trans hunit))
    have hnext : (Synthesis.addField commentedText "T" ⟨"next", .reference, some "S"⟩
        Foundry.commented.catalog.resolve).toOption = some commentedNext := by decide +kernel
    rw [hadd] at hnext
    exact Option.some.inj hnext

namespace Tended

/-- **A known type can get lost** if a unit is read otherwise than it was laid out, even where no two types
of the units have one full name. -/
theorem crate_not_closed : ¬ ∀ (s : Settings) (w₀ w w' : World) (f f' : Foundry) (q : Request)
    (r : Except Halt Answer),
    s.preload = true → w₀.ListsAtStart s →
    (∀ units, Foundry.Preloads s w₀ units → ∀ path,
      (typesOf path (units.filterMap SourceUnit.read?)).length ≤ 1) →
    (∀ k, Store.NotNamedFor ⟨s.sourceDir⟩ w₀ (w₀.ids k)) →
    (Foundry.start s).run w₀ = (.ok f, w) → (∃ name field, q = .extend name field) → w.ListsAt f q →
    q.serve (f, w) = (r, f', w') → w'.invocations ≠ w.invocations →
    ∃ name source path unit, q.Prepares f w name source path ∧ SourceUnit.read source = .ok unit ∧
      ∀ p, (f.catalog.resolve p).isSome = true → HasStruct p unit (Compiler.references f.arena) := by
  intro h
  obtain ⟨w, hstart, hunit, hbefore, hafter⟩ := Foundry.start_commented
  obtain ⟨⟨r, f', w'⟩, hserve⟩ : ∃ result, commentedRequest.serve (.commented, w) = result := ⟨_, rfl⟩
  rw [hserve] at hafter
  have hhanded : w'.invocations ≠ w.invocations := by
    intro hsame
    rw [← hsame] at hbefore
    cases hbefore.symm.trans hafter
  obtain ⟨next, hnext, htypes, hnames⟩ := commentedNext_read
  have hlists : w.ListsAt .commented commentedRequest := by
    intro name source path hprepares
    obtain rfl := commentedRequest_prepares hunit hprepares
    rw [List.filterMap_cons_some hnext, List.filterMap_nil, World.nextReply, hbefore,
      (Session.start_leads hstart).toolchain]
    exact Compiler.listedBy_of_names [⟨⟨[], "T"⟩, 8, 8, [⟨"next", "Option", 0⟩]⟩] (fun _ => rfl)
      (by decide +kernel) hnames (by decide)
  obtain ⟨name, source, path, unit, hprepares, hread, hall⟩ :=
    h _ _ _ _ _ _ _ _ rfl commented_lists (fun _ => commented_distinct) Foundry.notNamedFor_fresh
      hstart ⟨_, _, rfl⟩ hlists hserve hhanded
  obtain rfl := commentedRequest_prepares hunit hprepares
  obtain rfl := Option.some.inj ((Compiler.read?_eq_some.2 hread).symm.trans hnext)
  -- the enum is what counts for the full name of the struct
  obtain ⟨i, htypes, hkind⟩ := List.map_eq_singleton_iff.1 htypes
  obtain ⟨s, -, hdefinition, -, -⟩ := hall ⟨[], "S"⟩ rfl
  obtain rfl : i = .struct s := by simpa [definition?, htypes] using hdefinition
  simp [Item.kind?] at hkind

end Tended

end TypeFoundry
