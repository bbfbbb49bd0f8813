import TypeFoundry.Proofs.Coherence
import TypeFoundry.Proofs.Describing

/-!
# Sessions

In a session foundries are opened over one directory of units, one after the other, and serve
requests. As long as the toolchain is faithful to what it is handed, no part of a foundry finds that
another part broke its promise: a compiled type is described, a unit declares its type, and a module
loads (`Session.contract_kept`). The invariant of a session is `Session.Kept`.
-/

set_option autoImplicit false

namespace TypeFoundry

open Files Files.Disk Synthesis Source

/-! ## Broken promises -/

/-- The categories of the failures that show that a part of the foundry broke its promise. -/
def brokenKinds : List String := ["TypeNotFound", "MalformedSource", "LoadError"]

/-- The halt is no failure that shows a broken promise. -/
def Halt.IsSound (h : Halt) : Prop := ∀ f, h = .failure f → f.kind ∉ brokenKinds

@[simp] theorem Halt.isSound_failure (f : Failure) :
    (Halt.failure f).IsSound ↔ f.kind ∉ brokenKinds := by
  simp [IsSound]

@[simp] theorem Halt.isSound_aborted : Halt.aborted.IsSound := by
  rintro f ⟨⟩

@[simp] theorem mem_brokenKinds (kind : String) :
    kind ∈ brokenKinds ↔ kind = "TypeNotFound" ∨ kind = "MalformedSource" ∨ kind = "LoadError" := by
  simp [brokenKinds]

section

variable {arena : Arena} {units : List String} {reply : Invocation → Reply} {h : Halt}

theorem BuildHalt.isSound {label : String} (hh : BuildHalt arena units label reply h)
    (hfaithful : Compiler.FaithfulTo (units.filterMap SourceUnit.read?)
      (Compiler.references arena) reply) : h.IsSound := by
  cases hh with
  | load path htargets hreply htext hfault =>
    obtain ⟨layouts, ordered, hok, -⟩ := hfaithful.layouts htargets htext hreply
    rw [hok] at hfault
    cases hfault
  | unreadable file position => simp [Failure.kind]
  | io path cause => simp [Failure.kind]
  | unfinished => exact Halt.isSound_aborted
  | toolchain program cause => simp [Failure.kind]
  | compilation ds => simp [Failure.kind]

/-- The unit of a schema is compiled to a module that describes its type. -/
theorem EstablishHalt.isSound {f : Foundry} {source : String} {path : TypePath} {s : Schema}
    (hh : EstablishHalt f source path reply h) (hread : SourceUnit.read source = .ok s.unit)
    (hpath : s.path = path)
    (hfaithful : Compiler.FaithfulTo ([source].filterMap SourceUnit.read?)
      (Compiler.references f.arena) reply) : h.IsSound := by
  rcases hh with (hbuild | ⟨id, p, hp, hdefines, -⟩) | ⟨file, cause, rfl⟩
  · exact hbuild.isSound hfaithful
  · obtain ⟨t, hlayouts, ht⟩ := hp.layouts_eq hread hfaithful
    have htpath : t.path = path := ht.path.trans hpath
    simp [PendingModule.defines, hlayouts, htpath] at hdefines
  · simp [Failure.kind]

end

/-! ## Requests on units that requests wrote -/

/-- The text reads as the unit of a schema for the type. -/
theorem Written.read {name text : String} {path : TypePath} (h : Written name text)
    (hpath : typePath text name = .ok path) :
    ∃ s : Schema, s.path = path ∧ SourceUnit.read text = .ok s.unit := by
  obtain ⟨s, hs⟩ := h.schema
  have hspath : s.path = path := Except.ok.inj (hs.typePath.symm.trans hpath)
  obtain ⟨hwell, rfl, rfl⟩ := hs
  obtain ⟨s', hs', hread⟩ := Schema.read_text hwell
  refine ⟨s', ?_, hread⟩
  rw [← hspath, Schema.path, Schema.path, Schema.modules_congr hs', Schema.name_congr hs']

namespace Request

/-- The name of the type that the request is about. -/
def typeName : Request → String
  | create r => r.name
  | extend name _ => name

variable {f : Foundry} {w : World} {q : Request}

/-- A request with plain names is declined for what it asks, not for what a unit is like. -/
theorem Declines.isSound {h : Halt} (hh : q.Declines f w h) (hq : q.IsPlain)
    (hmodules : ∀ m ∈ f.modules, TypeFoundry.IsPlain m) (hstore : f.store.AllWritten w) :
    h.IsSound := by
  cases hh with
  | schema _ fault => simp [Failure.kind]
  | alreadyExists r => simp [Failure.kind]
  | unnamed hnew =>
    rw [newType_eq hq.isItemName fun m hm => (hmodules m hm).isModuleName] at hnew
    cases hnew
  | notFound name r => simp [Failure.kind]
  | unread name r file cause => simp [Failure.kind]
  | unlocated r hread hpath =>
    obtain ⟨s, hs⟩ := (hstore.read hq.1.isIdentifier hread).schema
    rw [hs.typePath] at hpath
    cases hpath
  | refused hread hadd =>
    obtain ⟨s, hwell, rfl, rfl⟩ := (hstore.read hq.1.isIdentifier hread).schema
    obtain ⟨v, path, -, -, -, hok⟩ | ⟨e, he, herror⟩ :=
      addField_cases hwell hq.2.isItemName f.catalog.resolve
    · rw [hok] at hadd
      cases hadd
    · obtain rfl := Except.error.inj (herror.symm.trans hadd)
      rcases he.cases with rfl | rfl | ⟨requested, rfl⟩ | rfl
      · simp [Failure.kind]
      · simp [Failure.kind]
      · simp [Failure.kind]
      · exact Halt.isSound_aborted

theorem Prepares.name_eq {name source : String} {path : TypePath}
    (h : q.Prepares f w name source path) : name = q.typeName := by
  cases h <;> rfl

end Request

/-! ## Opening and serving under a faithful toolchain -/

/-- The toolchain is faithful to the stored units, if opening a foundry compiles them. -/
def World.FaithfulAtStart (w : World) (s : Settings) : Prop :=
  ∀ units, Foundry.Preloads s w units →
    Compiler.FaithfulTo (units.filterMap SourceUnit.read?) (Compiler.references .empty) w.nextReply

/-- The toolchain is faithful to the unit that the request prepares. -/
def World.FaithfulAt (w : World) (f : Foundry) (q : Request) : Prop :=
  ∀ name source path, q.Prepares f w name source path →
    Compiler.FaithfulTo ([source].filterMap SourceUnit.read?) (Compiler.references f.arena) w.nextReply

theorem Foundry.StartHalt.isSound {s : Settings} {w : World} {h : Halt} (hh : StartHalt s w h)
    (hfaithful : w.FaithfulAtStart s) : h.IsSound := by
  cases hh with
  | settings fault => simp [Failure.kind]
  | unread hunread =>
    obtain ⟨path, cause, rfl⟩ := hunread
    simp [Failure.kind]
  | build hunits hbuild => exact hbuild.isSound (hfaithful _ hunits)

namespace Request

variable {f : Foundry} {w : World} {q : Request}

theorem ServeHalt.isSound {w' : World} {h : Halt} (hh : q.ServeHalt f w h w') (hq : q.IsPlain)
    (hmodules : ∀ m ∈ f.modules, TypeFoundry.IsPlain m) (hstore : f.store.AllWritten w)
    (hfaithful : w.FaithfulAt f q) : h.IsSound := by
  rcases hh with ⟨hdeclines, -⟩ | ⟨name, source, path, hprepares, hestablish, -⟩
  · exact hdeclines.isSound hq hmodules hstore
  · obtain ⟨-, -, hwritten, hpath⟩ := hprepares.written hq hmodules hstore
    obtain ⟨s, hs, hread⟩ := hwritten.read hpath
    exact hestablish.isSound hread hs (hfaithful _ _ _ hprepares)

end Request

theorem Registry.find?_append (r : Registry) (handle : TypeHandle) :
    Registry.find? ⟨r.entries ++ [handle]⟩ handle.path = some handle := by
  simp [find?, lastNamed?]

/-- The registry finds the type of the unit that is stored, with the fields that the unit declares. -/
def Foundry.Offers (f : Foundry) (w : World) (path : TypePath) : Prop :=
  ∃ handle text fields, f.catalog.registry.find? path = some handle ∧ handle.path = path ∧
    f.store.unit? w path.name = some (.text text) ∧
    declaredFields text path.name = .ok fields ∧ handle.fields.map (·.name) = fields.map (·.1)

/-- A request that succeeds leaves the foundry with its type, as the unit declares it. -/
theorem Coherent.offers {f f' : Foundry} {w w' : World} {log : List Version} {q : Request}
    {a : Answer} {s : Foundry × World} (h : Coherent f w log f' w')
    (hids : ∀ k < w'.drawn, w.ids k ≠ w.ids w'.drawn) (hstore : f.store.AllWritten w)
    (hmodules : ∀ m ∈ f.modules, IsPlain m) (hq : q.IsPlain) (hfaithful : w'.FaithfulAt f' q)
    (hrun : q.serve (f', w') = (.ok a, s)) :
    a.path.name = q.typeName ∧ s.1.Offers s.2 a.path := by
  obtain ⟨name, source, hprepares, hestablished⟩ := Request.serve_ok hrun
  obtain ⟨hname, hpath, hwritten, htypePath⟩ :=
    hprepares.written hq (h.namespace_eq ▸ hmodules) (h.allWritten hstore)
  obtain ⟨schema, hschema, hread⟩ := hwritten.read htypePath
  obtain ⟨p, handle, hp, hfind, hs⟩ := hestablished.admitted
  obtain ⟨-, hhandle, hbelongs, hlayout⟩ := handle_of_find? hfind
  have hid : handle.module.id = w'.ids w'.drawn := by
    rw [hbelongs, ← hp.id_eq]
    rfl
  -- the module describes the struct of the unit and nothing else
  obtain ⟨t, hlayouts, ht⟩ := hp.layouts_eq hread (hfaithful _ _ _ hprepares)
  rw [hlayouts] at hlayout
  have hfields : handle.fields.map (·.name) = schema.described.fields.map (·.1) := by
    rw [TypeHandle.fields, List.mem_singleton.1 hlayout, ht.fields]
  have hdeclared := declaredFields_read hread
  rw [show schema.name = a.path.name from congrArg TypePath.name hschema] at hdeclared
  refine ⟨hpath.trans hprepares.name_eq, handle, source, _, ?_, hhandle, ?_, hdeclared, ?_⟩
  · rw [hs, h.register_eq hids hid, ← hhandle]
    exact Registry.find?_append _ handle
  · have hstored := hestablished.stored
    rw [place_path hname.isIdentifier] at hstored
    rw [hs, Store.unit?, hestablished.leads.cwd, hpath]
    exact hstored
  · rw [hfields, Schema.described, List.map_map, List.map_map]
    rfl

/-! ## Sessions -/

/-- The settings keep the units in the directory of the store, and declare types in plain modules. -/
structure Settings.Fit (s : Settings) (store : Store) : Prop where
  sourceDir : s.sourceDir = store.root
  modules : ∀ modules, s.segments = .ok modules → ∀ m ∈ modules, IsPlain m

/-- A session over the store that began in the world, with the foundry that is open now, if any, and
the world as it is now. The toolchain was faithful to whatever was handed to it. -/
inductive Session (store : Store) (w₀ : World) : Option Foundry → World → Prop where
  | start : Session store w₀ none w₀
  | opened {open? : Option Foundry} {w w' : World} {s : Settings} {f : Foundry} :
    Session store w₀ open? w → s.Fit store → w.FaithfulAtStart s →
    (Foundry.start s).run w = (.ok f, w') → Session store w₀ (some f) w'
  | failed {open? : Option Foundry} {w w' : World} {s : Settings} {h : Halt} :
    Session store w₀ open? w → s.Fit store → w.FaithfulAtStart s →
    (Foundry.start s).run w = (.error h, w') → Session store w₀ none w'
  | served {f f' : Foundry} {w w' : World} {q : Request} {r : Except Halt Answer} :
    Session store w₀ (some f) w → q.IsPlain → w.FaithfulAt f q →
    q.serve (f, w) = (r, f', w') → Session store w₀ (some f') w'

/-- The foundry was opened in the session and has been coherent since. -/
def Foundry.OpenedOver (store : Store) (w₀ : World) (f : Foundry) (w : World) : Prop :=
  ∃ f₀ w₁ log, Coherent f₀ w₁ log f w ∧ f₀.store = store ∧ w₀.Leads w₁ ∧ store.AllWritten w₁ ∧
    ∀ m ∈ f₀.modules, IsPlain m

/-- What holds all through a session: requests wrote all units, and the open foundry is coherent. -/
structure Session.Kept (store : Store) (w₀ : World) (open? : Option Foundry) (w : World) : Prop where
  leads : w₀.Leads w
  written : store.AllWritten w
  coherent : ∀ f, open? = some f → f.OpenedOver store w₀ w

theorem Store.NotNamedFor.of_leads {store : Store} {w₀ w : World}
    (hfresh : ∀ k, store.NotNamedFor w₀ (w₀.ids k)) (h : w₀.Leads w) (k : Nat) :
    store.NotNamedFor w (w.ids k) := by
  intro dir hdir
  rw [h.cwd] at hdir
  rw [h.ids]
  exact hfresh k dir hdir

/-- Opening a foundry leaves all units. -/
theorem Store.AllWritten.of_outsideCrate {store : Store} {w w' : World} {id : ModuleId}
    (h : store.AllWritten w) (hw : w.Leads w') (hfresh : store.NotNamedFor w id)
    (hd : SameFiles (OutsideCrate id) w.disk w'.disk) : store.AllWritten w' := by
  intro name content hcontent
  rw [Store.unit?, hw.cwd, hd _ (hfresh.outsideCrate name)] at hcontent
  exact h name content hcontent

namespace Session

variable {store : Store} {w₀ w w' : World} {open? : Option Foundry}

theorem kept_start (hstore : store.AllWritten w₀) : Kept store w₀ none w₀ :=
  ⟨World.Leads.refl w₀, hstore, by simp⟩

/-- Opening a foundry, or failing to, leaves all units; the foundry has made no versions. -/
theorem Kept.start {s : Settings} {r : Except Halt Foundry} (h : Kept store w₀ open? w)
    (hfresh : ∀ k, store.NotNamedFor w₀ (w₀.ids k)) (hfit : s.Fit store)
    (hrun : (Foundry.start s).run w = (r, w')) : Kept store w₀ r.toOption w' := by
  have hnamed := Store.NotNamedFor.of_leads hfresh h.leads w.drawn
  cases r with
  | ok f =>
    obtain ⟨hroot, hsegments, hstarted, hw, hd⟩ := (Foundry.start_ends s).of_ok hrun
    have hleads := h.leads.trans hw
    have hwritten := h.written.of_outsideCrate hw hnamed hd
    refine ⟨hleads, hwritten, ?_⟩
    rintro _ ⟨⟩
    refine ⟨f, w', [], hstarted.coherent.1, ?_, hleads, hwritten, hfit.modules _ hsegments⟩
    rw [hroot, hfit.sourceDir]
  | error e =>
    obtain ⟨-, hw, hd⟩ := (Foundry.start_ends s).of_error hrun
    exact ⟨h.leads.trans hw, h.written.of_outsideCrate hw hnamed hd, by rintro _ ⟨⟩⟩

/-- Serving a request leaves the units and the foundry coherent. -/
theorem Kept.serve {f f' : Foundry} {q : Request} {r : Except Halt Answer}
    (h : Kept store w₀ (some f) w) (hids : ∀ i < w.drawn, w₀.ids i ≠ w₀.ids w.drawn)
    (hfresh : ∀ k, store.NotNamedFor w₀ (w₀.ids k)) (hq : q.IsPlain)
    (hrun : q.serve (f, w) = (r, f', w')) : Kept store w₀ (some f') w' := by
  obtain ⟨f₀, w₁, log, hcoherent, rfl, hw₁, hwritten, hmodules⟩ := h.coherent f rfl
  have hnamed := Store.NotNamedFor.of_leads hfresh hw₁
  have hleads := h.leads.trans (Request.serve_leads hrun)
  obtain ⟨log', hcoherent'⟩ : ∃ log', Coherent f₀ w₁ log' f' w' := by
    cases r with
    | ok a =>
      obtain ⟨v, hv, -⟩ :=
        hcoherent.serve_ok (hw₁.ids.symm ▸ hids) hnamed hwritten hmodules hq hrun
      exact ⟨_, hv⟩
    | error e => exact ⟨_, hcoherent.serve_error hnamed hrun⟩
  refine ⟨hleads, ?_, ?_⟩
  · rw [← hcoherent'.store]
    exact hcoherent'.allWritten hwritten
  · rintro _ ⟨⟩
    exact ⟨f₀, w₁, log', hcoherent', rfl, hw₁, hwritten, hmodules⟩

theorem start_leads {s : Settings} {r : Except Halt Foundry}
    (hrun : (Foundry.start s).run w = (r, w')) : w.Leads w' := by
  cases r with
  | ok f => exact ((Foundry.start_ends s).of_ok hrun).2.2.2.1
  | error e => exact ((Foundry.start_ends s).of_error hrun).2.1

/-- **The invariant of sessions.** -/
theorem kept (h : Session store w₀ open? w)
    (hids : ∀ j ≤ w.drawn, ∀ i < j, w₀.ids i ≠ w₀.ids j)
    (hfresh : ∀ k, store.NotNamedFor w₀ (w₀.ids k)) (hstore : store.AllWritten w₀) :
    Kept store w₀ open? w := by
  induction h with
  | start => exact kept_start hstore
  | opened _ hfit _ hrun ih =>
    have hdrawn := (start_leads hrun).drawn
    exact (ih fun j hj => hids j (Nat.le_trans hj hdrawn)).start hfresh hfit hrun
  | failed _ hfit _ hrun ih =>
    have hdrawn := (start_leads hrun).drawn
    exact (ih fun j hj => hids j (Nat.le_trans hj hdrawn)).start hfresh hfit hrun
  | served _ hq _ hrun ih =>
    have hdrawn := (Request.serve_leads hrun).drawn
    exact (ih fun j hj => hids j (Nat.le_trans hj hdrawn)).serve (hids _ hdrawn) hfresh hq hrun

/-- **No part of a foundry breaks its promise.** Wherever a session has come to, if the toolchain is
faithful to what it is handed next, then no foundry that is opened and no request that is served fails
because a type was not found in its module, a unit does not declare its type, or a module did not
load. A request that succeeds leaves the foundry with its type: the registry finds it under its full
name, with the fields that the stored unit declares. -/
theorem contract_kept (h : Session store w₀ open? w)
    (hids : ∀ j ≤ w.drawn, ∀ i < j, w₀.ids i ≠ w₀.ids j)
    (hfresh : ∀ k, store.NotNamedFor w₀ (w₀.ids k)) (hstore : store.AllWritten w₀) :
    (∀ (s : Settings) (e : Halt) (w' : World), s.Fit store → w.FaithfulAtStart s →
      (Foundry.start s).run w = (.error e, w') → e.IsSound) ∧
    ∀ (f : Foundry) (q : Request), open? = some f → q.IsPlain → w.FaithfulAt f q →
      (∀ (e : Halt) (s : Foundry × World), q.serve (f, w) = (.error e, s) → e.IsSound) ∧
      ∀ (a : Answer) (s : Foundry × World), q.serve (f, w) = (.ok a, s) →
        a.path.name = q.typeName ∧ s.1.Offers s.2 a.path := by
  have hkept := h.kept hids hfresh hstore
  refine ⟨fun s e w' _ hfaithful hrun => ?_, ?_⟩
  · exact ((Foundry.start_ends s).of_error hrun).1.isSound hfaithful
  · rintro f q rfl hq hfaithful
    obtain ⟨f₀, w₁, log, hcoherent, rfl, hw₁, hwritten, hmodules⟩ := hkept.coherent f rfl
    refine ⟨fun e s hrun => ?_, fun a s hrun => ?_⟩
    · exact (Request.serve_error hrun).2.isSound hq (hcoherent.namespace_eq ▸ hmodules)
        (hcoherent.allWritten hwritten) hfaithful
    · exact hcoherent.offers (hw₁.ids.symm ▸ hids _ (Nat.le_refl _)) hwritten hmodules hq hfaithful
        hrun

/-- The layout that the descriptor of a fresh world is of. -/
def freshLayout : TypeLayout :=
  ⟨⟨["m"], "T"⟩, 48, 16, [⟨"id", "u128", 0⟩, ⟨"name", "String", 16⟩]⟩

/-- A type is made by the first request of a session; the toolchain tells where its fields lie. -/
theorem contract_kept_new : ∃ f w, (Request.create ⟨"T"⟩).serve (.fresh, .fresh) =
    (.ok (.created ⟨⟨["m"], "T"⟩, "units/T.rs"⟩), f, w) ∧ f.Offers w ⟨["m"], "T"⟩ := by
  obtain ⟨⟨f, w⟩, hserve⟩ := Foundry.serve_fresh
  have hname : IsPlain "T" := Foundry.isPlain_fresh "T" (by simp)
  have hmodules : ∀ m ∈ ["m"], IsPlain m := by simpa using Foundry.isPlain_fresh "m" (by simp)
  have hfit : Foundry.freshSettings.Fit Foundry.fresh.store := by
    refine ⟨rfl, fun modules hm => ?_⟩
    rw [← Except.ok.inj (Foundry.segments_fresh.symm.trans hm)]
    exact hmodules
  have hstart : World.fresh.FaithfulAtStart Foundry.freshSettings :=
    fun _ hunits => nomatch hunits.enabled
  -- the unit that is compiled is that of a new schema
  have hfaithful : World.fresh.FaithfulAt .fresh (.create ⟨"T"⟩) := by
    rintro name source path (⟨-, hnew⟩ | -)
    obtain ⟨hwell, -, rfl⟩ := isSchemaText_new hname hmodules hnew
    obtain ⟨schema, hschema, hread⟩ := Schema.read_text hwell
    rw [Compiler.filterMap_read? hread, List.filterMap_nil]
    rintro i loaded - hreply
    obtain rfl := Reply.success.inj hreply
    have hlaidOut : schema.described.LaidOut freshLayout := by
      refine ⟨?_, ?_, by decide, by decide, ?_, by decide⟩
      · rw [Schema.described, Schema.path, Schema.modules_congr hschema, Schema.name_congr hschema]
        rfl
      · rw [schema.described_names, Schema.fieldNames_congr hschema]
        rfl
      · simp [freshLayout, IsColumn]
    rw [schema.described_unit]
    refine .intro (List.Perm.refl _) (.cons hlaidOut .nil) ?_
    decide +kernel
  have hsession : Session Foundry.fresh.store .fresh (some .fresh) .fresh :=
    .opened .start hfit hstart Foundry.start_fresh
  have hids : ∀ j ≤ World.fresh.drawn, ∀ i < j, World.fresh.ids i ≠ World.fresh.ids j := by decide
  have hkept := hsession.contract_kept hids Foundry.notNamedFor_fresh (Store.allWritten_empty _ rfl)
  exact ⟨f, w, hserve, ((hkept.2 .fresh (.create ⟨"T"⟩) rfl hname hfaithful).2 _ _ hserve).2⟩

end Session

end TypeFoundry
