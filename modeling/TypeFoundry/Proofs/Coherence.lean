import TypeFoundry.Proofs.Opening
import TypeFoundry.Proofs.Written

/-!
# Store, arena and registry stay coherent

Every successful request makes one version of a type: a unit, the module that was compiled from it
and the handle that was registered. `Coherent` says that store, arena and registry are what they were
when the foundry was opened, and these versions in the order in which they were made. A request adds a
version or changes nothing (`Coherent.serve`), so this holds after every run (`serveAll_coherent`).
-/

set_option autoImplicit false

namespace TypeFoundry

open Files Files.Disk Synthesis

/-- What a successful request made: the text of the unit, its module and the handle of its type. -/
structure Version where
  text : String
  module : LoadedModule
  handle : TypeHandle

namespace Version

/-- The name of the type. -/
def name (v : Version) : String := v.handle.name

/-- The module was made of the unit and describes the type, under the full name in the unit. -/
structure Sound (v : Version) : Prop where
  written : Written v.name v.text
  path : typePath v.text v.name = .ok v.handle.path
  units : v.module.units = [v.text]
  origin : v.module.info.origin = .dynamic
  belongs : v.handle.module = v.module.info
  described : v.handle ∈ v.module.types

/-- The last version of the type of that name. -/
def last? (name : String) (log : List Version) : Option Version := log.reverse.find? (·.name = name)

theorem last?_append (name : String) (log : List Version) (v : Version) :
    last? name (log ++ [v]) = if v.name = name then some v else last? name log := by
  simp only [last?, List.reverse_append, List.reverse_singleton, List.singleton_append,
    List.find?_cons]
  split <;> simp_all

theorem mem_of_last? {name : String} {log : List Version} {v : Version}
    (h : last? name log = some v) : v ∈ log ∧ v.name = name := by
  refine ⟨by simpa using List.mem_of_find?_eq_some h, ?_⟩
  simpa using List.find?_some h

end Version

/-- From when it was opened to now, the foundry made the versions, and nothing else happened to its
modules, its registry and its units. -/
structure Coherent (f : Foundry) (w : World) (log : List Version) (f' : Foundry) (w' : World) :
    Prop where
  store : f'.store = f.store
  namespace_eq : f'.modules = f.modules
  manifest : f'.catalog.manifest = f.catalog.manifest
  leads : w.Leads w'
  admitted : f'.arena.modules = f.arena.modules ++ log.map (·.module)
  registered : f'.catalog.registry.entries = log.map (·.handle)
  sound : ∀ v ∈ log, v.Sound
  generations : ∀ i m, f'.arena.modules[i]? = some m → m.info.generation = i + 1
  drawn : ∀ v ∈ log, ∃ k, k < w'.drawn ∧ v.module.info.id = w.ids k
  stored : ∀ name, f.store.unit? w' name =
    ((Version.last? name log).map fun v => Content.text v.text).or (f.store.unit? w name)

namespace Coherent

variable {f f' f'' : Foundry} {w w' w'' : World} {log : List Version}

/-- A foundry that was just opened has made no versions. -/
theorem refl (hregistry : f.catalog.registry.entries = [])
    (hgenerations : ∀ i m, f.arena.modules[i]? = some m → m.info.generation = i + 1) :
    Coherent f w [] f w :=
  ⟨rfl, rfl, rfl, World.Leads.refl w, by simp, by simp [hregistry], by simp, hgenerations, by simp,
    by simp [Version.last?]⟩

theorem allWritten (h : Coherent f w log f' w') (hstore : f.store.AllWritten w) :
    f'.store.AllWritten w' := by
  intro name content hcontent
  rw [h.store, h.stored] at hcontent
  cases hlast : Version.last? name log with
  | none =>
    rw [hlast] at hcontent
    exact hstore name content (by simpa using hcontent)
  | some v =>
    rw [hlast] at hcontent
    obtain ⟨hmem, rfl⟩ := Version.mem_of_last? hlast
    exact ⟨v.text, by simpa [eq_comm] using hcontent, (h.sound v hmem).written⟩

theorem notNamedFor (h : Coherent f w log f' w') (hfresh : ∀ k, f.store.NotNamedFor w (w.ids k)) :
    f'.store.NotNamedFor w' (w'.ids w'.drawn) := by
  rw [h.store, h.leads.ids]
  intro dir hdir
  rw [h.leads.cwd] at hdir
  exact hfresh _ dir hdir

/-- A request that fails makes no version. -/
theorem serve_error {q : Request} {e : Halt} {s : Foundry × World} (h : Coherent f w log f' w')
    (hfresh : ∀ k, f.store.NotNamedFor w (w.ids k)) (hrun : q.serve (f', w') = (.error e, s)) :
    Coherent f w log s.1 s.2 := by
  obtain ⟨hf, hhalt⟩ := Request.serve_error hrun
  have hw := hhalt.leads
  have hunits := hhalt.units (h.notNamedFor hfresh)
  rw [hf]
  refine ⟨h.store, h.namespace_eq, h.manifest, h.leads.trans hw, h.admitted, h.registered, h.sound,
    h.generations, fun v hv => ?_, fun name => ?_⟩
  · obtain ⟨k, hk, hid⟩ := h.drawn v hv
    exact ⟨k, Nat.lt_of_lt_of_le hk hw.drawn, hid⟩
  · rw [← h.stored, ← h.store]
    exact hunits name

/-- The new handle differs from those that are registered, because its module has a new identity. -/
theorem register_eq (h : Coherent f w log f' w') (hids : ∀ k < w'.drawn, w.ids k ≠ w.ids w'.drawn)
    {handle : TypeHandle} (hid : handle.module.id = w'.ids w'.drawn) :
    f'.catalog.register handle =
      (true, ⟨f'.catalog.manifest, ⟨f'.catalog.registry.entries ++ [handle]⟩⟩) := by
  have hnot : f'.catalog.registry.holds handle = false := by
    rw [Registry.holds, h.registered, List.any_eq_false]
    intro g hg hsame
    obtain ⟨v, hv, rfl⟩ := List.mem_map.1 hg
    obtain ⟨k, hk, hkid⟩ := h.drawn v hv
    have hsame : v.handle.module.id = handle.module.id := by
      simp only [TypeHandle.same, Bool.and_eq_true, decide_eq_true_eq] at hsame
      exact hsame.1
    rw [(h.sound v hv).belongs, hkid, hid, h.leads.ids] at hsame
    exact hids k hk hsame
  simp [Catalog.register, Registry.register, hnot]

/-- A request that succeeds makes one version, and its handle is registered. -/
theorem serve_ok {q : Request} {a : Answer} {s : Foundry × World} (h : Coherent f w log f' w')
    (hids : ∀ k < w'.drawn, w.ids k ≠ w.ids w'.drawn)
    (hfresh : ∀ k, f.store.NotNamedFor w (w.ids k)) (hstore : f.store.AllWritten w)
    (hmodules : ∀ m ∈ f.modules, IsPlain m) (hq : q.IsPlain)
    (hrun : q.serve (f', w') = (.ok a, s)) :
    ∃ v, Coherent f w (log ++ [v]) s.1 s.2 ∧ v.handle.path = a.path ∧
      f'.catalog.register v.handle = (true, s.1.catalog) := by
  obtain ⟨name, source, hprepares, hestablished⟩ := Request.serve_ok hrun
  obtain ⟨hname, hpath, hwritten, htypePath⟩ :=
    hprepares.written hq (h.namespace_eq ▸ hmodules) (h.allWritten hstore)
  obtain ⟨p, handle, hp, hfind, hs⟩ := hestablished.admitted
  obtain ⟨hmem, hhandle, hbelongs, -⟩ := handle_of_find? hfind
  have hid : handle.module.id = w'.ids w'.drawn := by
    rw [hbelongs, ← hp.id_eq]
    rfl
  have hregister := h.register_eq hids hid
  have hvname : handle.name = name := by rw [TypeHandle.name, hhandle, hpath]
  have hfoundry : s.1 = { f' with
      arena := f'.arena.push p
      catalog := ⟨f'.catalog.manifest, ⟨f'.catalog.registry.entries ++ [handle]⟩⟩ } := by
    rw [hs, hregister]
  refine ⟨⟨source, f'.arena.next p, handle⟩, ⟨?_, ?_, ?_, h.leads.trans hestablished.leads,
    ?_, ?_, ?_, ?_, ?_, ?_⟩, hhandle, by rw [hregister, hfoundry]⟩
  · rw [hfoundry]
    exact h.store
  · rw [hfoundry]
    exact h.namespace_eq
  · rw [hfoundry]
    exact h.manifest
  · rw [hfoundry, List.map_append, ← List.append_assoc, ← h.admitted]
    rfl
  · rw [hfoundry, List.map_append, ← h.registered]
    rfl
  · intro v hv
    obtain hv | hv := List.mem_append.1 hv
    · exact h.sound v hv
    · obtain rfl := List.mem_singleton.1 hv
      refine ⟨?_, ?_, hp.units_eq, hp.origin_eq, hbelongs, hmem⟩
      · rw [Version.name, hvname]
        exact hwritten
      · rw [Version.name, hvname, hhandle]
        exact htypePath
  · -- the new module is the last one
    rw [hfoundry]
    intro i m hm
    rw [Arena.push, List.getElem?_append] at hm
    split at hm
    · exact h.generations i m hm
    · rename_i hlength
      have hi : i = f'.arena.modules.length := by
        have := List.getElem?_eq_some_iff.1 hm
        simp at this
        omega
      subst hi
      obtain rfl : f'.arena.next p = m := by simpa using hm
      rfl
  · intro v hv
    obtain hv | hv := List.mem_append.1 hv
    · obtain ⟨k, hk, hid⟩ := h.drawn v hv
      exact ⟨k, Nat.lt_of_lt_of_le hk hestablished.leads.drawn, hid⟩
    · obtain rfl := List.mem_singleton.1 hv
      refine ⟨w'.drawn, by rw [hestablished.drawn]; omega, ?_⟩
      rw [← hbelongs, hid, h.leads.ids]
  · intro unit
    rw [Version.last?_append]
    have hstored := hestablished.stored
    rw [place_path hname.isIdentifier] at hstored
    rw [Store.unit?, hestablished.leads.cwd]
    split
    · rename_i hunit
      rw [← hunit, Version.name, hvname, ← h.store, hstored]
      rfl
    · -- other units stay where they are
      rename_i hunit
      rw [← h.stored unit, ← h.store, Store.unit?]
      refine hestablished.others _ ⟨(h.notNamedFor hfresh).outsideCrate unit,
        not_staged_unit _ unit, fun he => hunit ?_⟩
      rw [place_path hname.isIdentifier] at he
      have hend := List.append_cancel_left he
      rw [Version.name, hvname]
      simpa [eq_comm] using hend

/-! ### What the versions say -/

/-- The module of a version stands in the arena behind those that were there before. -/
theorem module_eq (h : Coherent f w log f' w') {i : Nat} {v : Version} (hv : log[i]? = some v) :
    f'.arena.modules[f.arena.size + i]? = some v.module ∧
      v.handle.module.generation = f.arena.size + i + 1 := by
  have hmodule : f'.arena.modules[f.arena.size + i]? = some v.module := by
    rw [h.admitted, Arena.size, List.getElem?_append_right (Nat.le_add_right ..)]
    simp [hv]
  refine ⟨hmodule, ?_⟩
  rw [(h.sound v (List.mem_of_getElem? hv)).belongs]
  exact h.generations _ _ hmodule

theorem size_eq (h : Coherent f w log f' w') :
    f'.arena.size = f.arena.size + f'.catalog.registry.size := by
  rw [Arena.size, h.admitted, Registry.size, h.registered]
  simp [Arena.size]

/-- The count of modules is the generation of the last one. -/
theorem stats_eq (h : Coherent f w log f' w') :
    f'.arena.stats = ⟨f'.arena.size, f'.arena.size⟩ := by
  cases hlast : f'.arena.modules.getLast? with
  | none =>
    rw [Arena.stats, Arena.size, List.getLast?_eq_none_iff.1 hlast]
    rfl
  | some m =>
    have hgeneration := h.generations (f'.arena.modules.length - 1) m
      (by rw [← hlast, List.getLast?_eq_getElem?])
    have hpos : 0 < f'.arena.modules.length := by
      cases hm : f'.arena.modules with
      | nil => rw [hm] at hlast; cases hlast
      | cons => simp
    rw [Arena.stats, hlast, Arena.size, Option.map_some, Option.getD_some, hgeneration]
    congr 1
    omega

theorem generations_increase (h : Coherent f w log f' w') :
    f'.catalog.registry.entries.Pairwise (·.module.generation < ·.module.generation) := by
  rw [h.registered, List.pairwise_map, List.pairwise_iff_getElem]
  intro i j hi hj hij
  rw [(h.module_eq (List.getElem?_eq_getElem hi)).2, (h.module_eq (List.getElem?_eq_getElem hj)).2]
  omega

/-- The registry finds the last version of a type under its full name. -/
theorem find?_eq (h : Coherent f w log f' w') {name : String} {v : Version}
    (hv : Version.last? name log = some v) :
    f'.catalog.registry.find? v.handle.path = some v.handle := by
  obtain ⟨hname, later, earlier, hlog, hlater⟩ := List.find?_eq_some_iff_append.1 hv
  rw [Registry.find?, lastNamed?, h.registered, ← List.map_reverse, hlog,
    List.find?_eq_some_iff_append]
  refine ⟨by simp, later.map (·.handle), earlier.map (·.handle), by simp, ?_⟩
  intro g hg
  obtain ⟨u, hu, rfl⟩ := List.mem_map.1 hg
  -- a later version of the same full name would be one of the same name
  have hne : u.name ≠ name := by simpa using hlater u hu
  have hvname : v.name = name := by simpa using hname
  simp only [Bool.not_eq_eq_eq_not, Bool.not_true, decide_eq_false_iff_not]
  intro hpath
  exact hne (by rw [← hvname, Version.name, Version.name, TypeHandle.name, TypeHandle.name, hpath])

end Coherent

/-! ## Lists of all versions -/

/-- Of two texts one comes first. -/
theorem isLE_total (a b : String) : ((compare a b).isLE || (compare b a).isLE) = true := by
  have hswap : compare b a = (compare a b).swap := Std.OrientedOrd.eq_swap
  rw [hswap]
  cases compare a b <;> rfl

theorem entryListing_le_iff {a b : EntryListing} :
    EntryListing.le a b = (compare a.name b.name).isLE := by
  rw [EntryListing.le]
  cases compare a.name b.name <;> rfl

theorem entryListing_le_trans (a b c : EntryListing) (hab : EntryListing.le a b = true)
    (hbc : EntryListing.le b c = true) : EntryListing.le a c = true := by
  rw [entryListing_le_iff] at *
  exact Std.TransCmp.isLE_trans hab hbc

theorem entryListing_le_total (a b : EntryListing) :
    (EntryListing.le a b || EntryListing.le b a) = true := by
  rw [entryListing_le_iff, entryListing_le_iff]
  exact isLE_total _ _

/-- **The list of all registrations** holds each of them, sorted by name, and those of one name in the
order in which they were made. -/
theorem listEntries_sorted (c : Catalog) :
    c.listEntries.Pairwise (EntryListing.le · ·) ∧ ∀ name,
      c.listEntries.filter (·.name = name) =
        (c.registry.entries.map EntryListing.ofHandle).filter (·.name = name) := by
  refine ⟨List.pairwise_mergeSort entryListing_le_trans entryListing_le_total _, fun name => ?_⟩
  have hequal : ((c.registry.entries.map EntryListing.ofHandle).filter (·.name = name)).Pairwise
      (EntryListing.le · ·) := by
    rw [List.pairwise_iff_forall_sublist]
    intro a b hab
    have ha := hab.subset (List.mem_cons_self ..)
    have hb := hab.subset (List.mem_cons_of_mem _ (List.mem_cons_self ..))
    simp only [List.mem_filter, decide_eq_true_eq] at ha hb
    rw [entryListing_le_iff, ha.2, hb.2]
    simp
  have hsublist := List.sublist_mergeSort entryListing_le_trans entryListing_le_total hequal
    List.filter_sublist
  have hfilter := hsublist.filter fun e => decide (e.name = name)
  simp only [List.filter_filter, Bool.and_self] at hfilter
  have hperm := (List.mergeSort_perm (c.registry.entries.map EntryListing.ofHandle)
    EntryListing.le).filter fun e => decide (e.name = name)
  exact (hfilter.eq_of_length hperm.length_eq.symm).symm

/-! ## Runs -/

namespace Request

/-- What comes of the requests, one after the other, with the foundry and the world after them. -/
def serveAll : List Request → Foundry × World → List (Except Halt Answer) × Foundry × World
  | [], s => ([], s)
  | q :: qs, s =>
    let (r, s) := q.serve s
    let (rs, s) := serveAll qs s
    (r :: rs, s)

/-- The answers to the requests that succeeded. -/
def answers (rs : List (Except Halt Answer)) : List Answer := rs.filterMap Except.toOption

theorem serveAll_leads {f : Foundry} {w : World} {qs : List Request}
    {rs : List (Except Halt Answer)} {s : Foundry × World} (h : serveAll qs (f, w) = (rs, s)) :
    w.Leads s.2 := by
  induction qs generalizing f w rs with
  | nil =>
    obtain ⟨-, rfl⟩ := Prod.mk.inj h
    exact World.Leads.refl w
  | cons q qs ih =>
    cases hserve : q.serve (f, w) with
    | mk r s₁ =>
      cases hrest : serveAll qs s₁ with
      | mk rest s₂ =>
        rw [serveAll, hserve] at h
        dsimp only at h
        rw [hrest] at h
        obtain ⟨-, rfl⟩ := Prod.mk.inj h
        exact (serve_leads hserve).trans (ih hrest)

/-- A run adds one version for every request that succeeds. -/
theorem serveAll_versions {f f' : Foundry} {w w' : World} {log : List Version} {qs : List Request}
    {rs : List (Except Halt Answer)} {s : Foundry × World} (h : Coherent f w log f' w')
    (hrun : serveAll qs (f', w') = (rs, s))
    (hids : ∀ j ≤ s.2.drawn, ∀ i < j, w.ids i ≠ w.ids j)
    (hfresh : ∀ k, f.store.NotNamedFor w (w.ids k)) (hstore : f.store.AllWritten w)
    (hmodules : ∀ m ∈ f.modules, TypeFoundry.IsPlain m) (hqs : ∀ q ∈ qs, q.IsPlain) :
    ∃ new, Coherent f w (log ++ new) s.1 s.2 ∧
      new.map (·.handle.path) = (answers rs).map Answer.path := by
  induction qs generalizing f' w' log rs with
  | nil =>
    obtain ⟨rfl, rfl⟩ := Prod.mk.inj hrun
    exact ⟨[], by simpa using h, rfl⟩
  | cons q qs ih =>
    obtain ⟨hq, hqs⟩ := List.forall_mem_cons.1 hqs
    cases hserve : q.serve (f', w') with
    | mk r s₁ =>
      cases hrest : serveAll qs s₁ with
      | mk rest s₂ =>
        rw [serveAll, hserve] at hrun
        dsimp only at hrun
        rw [hrest] at hrun
        obtain ⟨rfl, rfl⟩ := Prod.mk.inj hrun
        cases r with
        | error e =>
          obtain ⟨new, hnew, hanswers⟩ := ih (h.serve_error hfresh hserve) hrest hqs
          exact ⟨new, hnew, by rw [hanswers]; rfl⟩
        | ok a =>
          have hdrawn := ((serve_leads hserve).trans (serveAll_leads hrest)).drawn
          obtain ⟨v, hv, hpath, -⟩ :=
            h.serve_ok (hids w'.drawn hdrawn) hfresh hstore hmodules hq hserve
          obtain ⟨new, hnew, hanswers⟩ := ih hv hrest hqs
          refine ⟨v :: new, by simpa using hnew, ?_⟩
          rw [List.map_cons, hpath, hanswers]
          rfl

end Request

theorem Foundry.Started.coherent {settings : Settings} {f : Foundry} {w w₀ : World}
    (h : Started settings w₀ f) :
    Coherent f w [] f w ∧
      (f.arena.modules = [] ∨ ∃ m, f.arena.modules = [m] ∧ m.info.origin = .assembly) := by
  cases h with
  | empty harena hcatalog =>
    refine ⟨Coherent.refl (by rw [hcatalog]; rfl) ?_, .inl (by rw [harena]; rfl)⟩
    rw [harena]
    intro i m hm
    cases hm
  | preloaded _ hp harena hcatalog =>
    refine ⟨Coherent.refl (by rw [hcatalog]; rfl) ?_, .inr ⟨_, by rw [harena]; rfl, hp.origin_eq⟩⟩
    rw [harena]
    intro i m hm
    obtain ⟨hi, hm⟩ := List.getElem?_eq_some_iff.1 hm
    obtain rfl : i = 0 := by
      simp [Arena.push, Arena.empty] at hi
      omega
    rw [← hm]
    rfl

/-! ### A world to begin with -/

/-- The descriptor of a module with the type `T` of the module `m`, which has no fields of its own. -/
def freshDescriptor : String :=
  "type\tm::T\t48\t16\nfield\tm::T\tid\tu128\t0\nfield\tm::T\tname\tString\t16\n"

/-- A world without files in which nothing was done yet. Its toolchain answers all crates with the
module of that type. -/
def World.fresh : World where
  disk := .empty
  cwd := []
  obstacles := fun _ => none
  operations := 0
  toolchain := ⟨fun _ => none,
    fun _ _ => .success (.descriptor (freshDescriptor.toList.map fun c => .ofNat c.toNat))⟩
  invocations := []
  ids := fun n => ⟨.ofNat 128 n⟩
  drawn := 0

namespace Foundry

/-- The settings for types in the module `m`. -/
def freshSettings : Settings := ⟨"units", "build", "m", "rustc", 0, false, []⟩

/-- The foundry that is opened with these settings. -/
def fresh : Foundry := ⟨⟨"units"⟩, ⟨"rustc", "build", 0⟩, ["m"], .empty, .empty⟩

theorem segments_fresh : freshSettings.segments = .ok ["m"] := by decide +kernel

theorem start_fresh : (start freshSettings).run .fresh = (.ok fresh, .fresh) := by
  have hcheck : freshSettings.check = .ok () := by decide +kernel
  unfold start
  rw [hcheck, segments_fresh]
  rfl

theorem notNamedFor_fresh (k : Nat) : fresh.store.NotNamedFor .fresh (World.fresh.ids k) := by
  have hplace : place [] "units" = ["units"] := by decide +kernel
  refine Store.notNamedFor_of_length ?_ _
  intro dir hdir
  rw [World.fresh, fresh, hplace] at hdir
  obtain rfl := Option.some.inj hdir
  decide

theorem isPlain_fresh : ∀ name ∈ ["m", "T"], IsPlain name := by
  intro name hname
  refine ⟨?_, ?_⟩ <;> revert name <;> decide +kernel

theorem serve_fresh : ∃ s, (Request.create ⟨"T"⟩).serve (.fresh, .fresh) =
    (.ok (.created ⟨⟨["m"], "T"⟩, "units/T.rs"⟩), s) := by
  have hname := isPlain_fresh "T" (by simp)
  have hmodules : ∀ m ∈ ["m"], isModuleName m = true := by
    simpa using (isPlain_fresh "m" (by simp)).isModuleName
  have hnew := newType_eq hname.isItemName hmodules
  have hread := Schema.read_new hname.isItemName hmodules
  have hcheck : TypeRequest.check ⟨"T"⟩ = .ok () := by decide +kernel
  have hmissing : World.fresh.disk.isFile World.fresh.cwd (fresh.store.path "T") = false := by
    decide +kernel
  have hestablished : ((establish "T" (Schema.new "T" ["m"]).text ⟨["m"], "T"⟩).run (fresh, .fresh)).1 =
      .ok "units/T.rs" := by
    -- what the text is read as is known, and it is not looked at otherwise
    simp only [establish, Compiler.compile, Compiler.build, mapM_readTarget_of_read hread]
    decide +kernel
  obtain ⟨⟨_, s⟩, hrun⟩ : ∃ established, (establish "T" (Schema.new "T" ["m"]).text ⟨["m"], "T"⟩).run
      (fresh, .fresh) = established := ⟨_, rfl⟩
  rw [hrun] at hestablished
  obtain rfl := hestablished
  exact ⟨s, Request.serve_create hcheck hmissing hnew hrun⟩

end Foundry

/-- **Store, arena and registry stay coherent over whole runs.** After any requests on an open
foundry there is a log of the versions that were made, one for each request that succeeded, in order,
to which the three correspond. The count of modules is the last generation, and there is one module
for each registration and the one that was there at the start, if any. Generations increase along
the registry. The unit of a type that a request changed is that of its last version, which the registry
finds and whose module stands in the arena at its generation. The list of all registrations is sorted
and complete. A further request that succeeds adds a version whose registration is accepted, and one
that fails adds none. -/
theorem serveAll_coherent {settings : Settings} {f f' : Foundry} {w₀ w w' : World}
    {qs : List Request} {rs : List (Except Halt Answer)}
    (hopen : (Foundry.start settings).run w₀ = (.ok f, w))
    (hids : ∀ j ≤ w'.drawn, ∀ i < j, w.ids i ≠ w.ids j)
    (hfresh : ∀ k, f.store.NotNamedFor w (w.ids k)) (hstore : f.store.AllWritten w)
    (hmodules : ∀ m ∈ f.modules, IsPlain m) (hqs : ∀ q ∈ qs, q.IsPlain)
    (hrun : Request.serveAll qs (f, w) = (rs, f', w')) :
    ∃ log, Coherent f w log f' w' ∧
      log.map (·.handle.path) = (Request.answers rs).map Answer.path ∧
      f'.arena.stats = ⟨f'.arena.size, f'.arena.size⟩ ∧
      f'.arena.size = f.arena.size + f'.catalog.registry.size ∧
      (f.arena.modules = [] ∨ ∃ m, f.arena.modules = [m] ∧ m.info.origin = .assembly) ∧
      f'.catalog.registry.entries.Pairwise (·.module.generation < ·.module.generation) ∧
      (∀ name v, Version.last? name log = some v →
        f'.store.unit? w' name = some (.text v.text) ∧
        f'.catalog.registry.find? v.handle.path = some v.handle ∧
        f'.arena.modules[v.handle.module.generation - 1]? = some v.module) ∧
      f'.listEntries.Pairwise (EntryListing.le · ·) ∧
      (∀ name, f'.listEntries.filter (·.name = name) =
        (f'.catalog.registry.entries.map EntryListing.ofHandle).filter (·.name = name)) ∧
      ∀ (q : Request) (s : Foundry × World), q.IsPlain →
        (∀ a, q.serve (f', w') = (.ok a, s) →
          ∃ v, Coherent f w (log ++ [v]) s.1 s.2 ∧ v.handle.path = a.path ∧
            f'.catalog.register v.handle = (true, s.1.catalog)) ∧
        ∀ e, q.serve (f', w') = (.error e, s) → Coherent f w log s.1 s.2 := by
  obtain ⟨-, -, hstarted, -⟩ := (Foundry.start_ends settings).of_ok hopen
  obtain ⟨hfirst, hassembly⟩ := hstarted.coherent (w := w)
  obtain ⟨log, h, hanswers⟩ :=
    Request.serveAll_versions hfirst hrun hids hfresh hstore hmodules hqs
  rw [List.nil_append] at h
  obtain ⟨hsorted, hcomplete⟩ := listEntries_sorted f'.catalog
  refine ⟨log, h, hanswers, h.stats_eq, h.size_eq, hassembly, h.generations_increase, ?_, hsorted,
    hcomplete, ?_⟩
  · intro name v hv
    refine ⟨by rw [h.store, h.stored, hv]; rfl, h.find?_eq hv, ?_⟩
    obtain ⟨i, hi⟩ := List.mem_iff_getElem?.1 (Version.mem_of_last? hv).1
    obtain ⟨hmodule, hgeneration⟩ := h.module_eq hi
    rw [hgeneration]
    exact hmodule
  · intro q s hq
    have hnext := hids w'.drawn (Nat.le_refl _)
    refine ⟨fun a hserve => ?_, fun e hserve => ?_⟩
    · exact h.serve_ok hnext hfresh hstore hmodules hq hserve
    · exact h.serve_error hfresh hserve

/-- A type is made in an empty directory. -/
theorem serveAll_coherent_new : ∃ v f w,
    Request.serveAll [.create ⟨"T"⟩] (.fresh, .fresh) =
      ([.ok (.created ⟨⟨["m"], "T"⟩, "units/T.rs"⟩)], f, w) ∧
    Coherent .fresh .fresh [v] f w ∧ v.handle.path = ⟨["m"], "T"⟩ := by
  obtain ⟨⟨f, w⟩, hserve⟩ := Foundry.serve_fresh
  have hrun : Request.serveAll [.create ⟨"T"⟩] (.fresh, .fresh) =
      ([.ok (.created ⟨⟨["m"], "T"⟩, "units/T.rs"⟩)], f, w) := by
    rw [Request.serveAll, hserve]
    rfl
  have hdrawn : w.drawn = 1 := by
    obtain ⟨name, source, -, hestablished⟩ := Request.serve_ok hserve
    exact hestablished.drawn
  have hids : ∀ j ≤ w.drawn, ∀ i < j, World.fresh.ids i ≠ World.fresh.ids j := by
    rw [hdrawn]
    decide
  have hmodules : ∀ m ∈ Foundry.fresh.modules, IsPlain m := by
    simpa [Foundry.fresh] using Foundry.isPlain_fresh "m" (by simp)
  have hqs : ∀ q ∈ [Request.create ⟨"T"⟩], q.IsPlain := by
    intro q hq
    obtain rfl : q = .create ⟨"T"⟩ := List.mem_singleton.1 hq
    exact Foundry.isPlain_fresh "T" (by simp)
  obtain ⟨log, hlog, hanswers, -⟩ :=
    serveAll_coherent Foundry.start_fresh hids Foundry.notNamedFor_fresh
      (Store.allWritten_empty _ rfl) hmodules hqs hrun
  obtain ⟨v, rfl, hv⟩ := List.map_eq_singleton_iff.1 hanswers
  exact ⟨v, f, w, hrun, hlog, hv⟩

end TypeFoundry
