import TypeFoundry.Proofs.Collecting
import TypeFoundry.Proofs.Latest

/-!
# The catalog mirrors the store

Under a faithful toolchain the catalog of an open foundry shows what the stored units declare: the same
types, with fields of the same names (`Foundry.Mirrors`). This is so when a foundry is opened over a
store that requests wrote (`start_shows`), and every request keeps it so (`Mirrors.serve`).
-/

set_option autoImplicit false

namespace TypeFoundry

open Source Crate Synthesis Files Files.Disk

/-! ## What stored units declare -/

/-- The unit that is stored for the type declares it under its full name, with fields of these names. -/
def Store.Declares (s : Store) (w : World) (path : TypePath) (names : List String) : Prop :=
  ∃ text fields, s.unit? w path.name = some (.text text) ∧ typePath text path.name = .ok path ∧
    declaredFields text path.name = .ok fields ∧ fields.map (·.1) = names

namespace Store

variable {s : Store} {w w' : World} {path : TypePath} {names names' : List String}

theorem Declares.unique (h : s.Declares w path names) (h' : s.Declares w path names') :
    names = names' := by
  obtain ⟨text, fields, hunit, -, hfields, rfl⟩ := h
  obtain ⟨text', fields', hunit', -, hfields', rfl⟩ := h'
  obtain rfl := Content.text.inj (Option.some.inj (hunit.symm.trans hunit'))
  rw [Except.ok.inj (hfields.symm.trans hfields')]

/-- A unit declares its type under one full name only. -/
theorem Declares.path_eq {path' : TypePath} (h : s.Declares w path names)
    (h' : s.Declares w path' names') (hname : path.name = path'.name) : path = path' := by
  obtain ⟨text, _, hunit, hpath, -⟩ := h
  obtain ⟨text', _, hunit', hpath', -⟩ := h'
  rw [hname] at hunit hpath
  obtain rfl := Content.text.inj (Option.some.inj (hunit.symm.trans hunit'))
  exact Except.ok.inj (hpath.symm.trans hpath')

/-- Only the unit of the type matters. -/
theorem declares_congr (h : s.unit? w' path.name = s.unit? w path.name) :
    s.Declares w' path names ↔ s.Declares w path names := by
  rw [Declares, Declares, h]

end Store

/-- A unit that requests wrote has one struct to be described, its type, with the fields that it
declares. -/
theorem Written.described {name text : String} {u : SourceUnit} (h : Written name text)
    (hread : SourceUnit.read text = .ok u) :
    ∃ d fields, Crate.described [u] = [d] ∧ d.path.name = name ∧ typePath text name = .ok d.path ∧
      declaredFields text name = .ok fields ∧ fields.map (·.1) = d.fields.map (·.1) := by
  obtain ⟨schema, hs⟩ := h.schema
  have hpath := hs.typePath
  obtain ⟨hwell, rfl, rfl⟩ := hs
  obtain ⟨schema', hplain, hread'⟩ := Schema.read_text hwell
  obtain rfl := Except.ok.inj (hread.symm.trans hread')
  have hsame : schema'.path = schema.path := by
    rw [Schema.path, Schema.path, Schema.modules_congr hplain, Schema.name_congr hplain]
  have hdeclared := declaredFields_read hread'
  rw [Schema.name_congr hplain] at hdeclared
  refine ⟨schema'.described, _, schema'.described_unit, Schema.name_congr hplain, ?_, hdeclared, ?_⟩
  · rw [hpath, ← hsame]
    rfl
  · rw [Schema.described, List.map_map, List.map_map]
    rfl

theorem mem_described {units : List SourceUnit} {d : Described} :
    d ∈ Crate.described units ↔ ∃ u ∈ units, d ∈ Crate.described [u] := by
  simp [Crate.described, List.mem_flatMap]

/-- **The structs to be described** of the stored units are the types that they declare. -/
theorem Store.declares_iff {s : Store} {w : World} (hstore : s.AllWritten w) {units : List String}
    (hunits : ∀ text, text ∈ units ↔ ∃ name, s.unit? w name = some (.text text)) (path : TypePath)
    (names : List String) :
    s.Declares w path names ↔ ∃ d ∈ Crate.described (units.filterMap SourceUnit.read?),
      d.path = path ∧ d.fields.map (·.1) = names := by
  constructor
  · rintro ⟨text, fields, hunit, hpath, hfields, rfl⟩
    obtain ⟨_, ht, hwritten⟩ := hstore _ _ hunit
    obtain rfl := Content.text.inj ht
    obtain ⟨u, hu⟩ := Option.isSome_iff_exists.1 hwritten.readable
    have hread := Compiler.read?_eq_some.1 hu
    obtain ⟨d, fields', hd, -, hdpath, hdfields, hnames⟩ := hwritten.described hread
    refine ⟨d, mem_described.2 ⟨u, ?_, by rw [hd]; exact List.mem_singleton_self d⟩, ?_, ?_⟩
    · exact Compiler.mem_filterMap_read?.2 ⟨text, (hunits text).2 ⟨_, hunit⟩, hread⟩
    · exact Except.ok.inj (hdpath.symm.trans hpath)
    · rw [← hnames, Except.ok.inj (hdfields.symm.trans hfields)]
  · rintro ⟨d, hd, rfl, rfl⟩
    obtain ⟨u, hu, hdu⟩ := mem_described.1 hd
    obtain ⟨text, htext, hread⟩ := Compiler.mem_filterMap_read?.1 hu
    obtain ⟨name, hunit⟩ := (hunits text).1 htext
    obtain ⟨_, ht, hwritten⟩ := hstore _ _ hunit
    obtain rfl := Content.text.inj ht
    obtain ⟨d', fields, hd', rfl, hpath, hfields, hnames⟩ := hwritten.described hread
    rw [hd'] at hdu
    obtain rfl := List.mem_singleton.1 hdu
    exact ⟨text, fields, hunit, hpath, hfields, hnames⟩

/-- A stored unit declares its type. -/
theorem Store.AllWritten.declares {s : Store} {w : World} (h : s.AllWritten w) {name text : String}
    (hunit : s.unit? w name = some (.text text)) :
    ∃ path names, path.name = name ∧ typePath text name = .ok path ∧ s.Declares w path names := by
  obtain ⟨_, ht, hwritten⟩ := h _ _ hunit
  obtain rfl := Content.text.inj ht
  obtain ⟨u, hu⟩ := Option.isSome_iff_exists.1 hwritten.readable
  obtain ⟨d, fields, -, rfl, hpath, hfields, -⟩ := hwritten.described (Compiler.read?_eq_some.1 hu)
  exact ⟨d.path, _, rfl, hpath, text, fields, hunit, hpath, hfields, rfl⟩

/-! ## What a module of all units describes -/

theorem map_shape_of_laidOut {ds : List Described} {ts : List TypeLayout}
    (h : List.Forall₂ Described.LaidOut ds ts) :
    ts.map (fun t => (t.path, t.fields.map (·.name))) = ds.map fun d => (d.path, d.fields.map (·.1)) := by
  induction h with
  | nil => rfl
  | cons hd _ ih => rw [List.map_cons, List.map_cons, ih, hd.path, hd.fields]

/-- A faithful module describes the structs of its units: their full names and the names of their
fields. -/
theorem Compiled.mem_layouts {arena : Arena} {units : List String} {label : String} {origin : Origin}
    {reply : Invocation → Reply} {id : ModuleId} {p : PendingModule}
    (hp : Compiled arena units label origin reply id p)
    (hfaithful : Compiler.FaithfulTo (units.filterMap SourceUnit.read?) (Compiler.references arena)
      reply) (path : TypePath) (names : List String) :
    (∃ t ∈ p.layouts, t.path = path ∧ t.fields.map (·.name) = names) ↔
      ∃ d ∈ Crate.described (units.filterMap SourceUnit.read?),
        d.path = path ∧ d.fields.map (·.1) = names := by
  obtain ⟨targets, i, loaded, htargets, hreply, htext, hlayouts⟩ := hp.described
  obtain ⟨layouts, ordered, hok, hperm, hlaidOut⟩ := hfaithful.layouts htargets htext hreply
  obtain rfl := Except.ok.inj (hlayouts.symm.trans hok)
  have hmem := (hperm.map fun d => (d.path, d.fields.map (·.1))).mem_iff (a := (path, names))
  rw [← map_shape_of_laidOut hlaidOut] at hmem
  simpa only [List.mem_map, Prod.mk.injEq] using hmem

namespace Catalog

variable {c : Catalog} {path : TypePath} {names : List String}

theorem Shows.unique {names' : List String} (h : c.Shows path names) (h' : c.Shows path names') :
    names = names' := by
  obtain ⟨g, hg, rfl⟩ := h
  obtain ⟨g', hg', rfl⟩ := h'
  rw [Option.some.inj (hg.symm.trans hg')]

theorem exists_find? {h : TypeHandle} (hmem : h ∈ c.handles) : ∃ g, c.find? h.path = some g := by
  rw [← Option.isSome_iff_exists, find?_eq, lastNamed?, List.find?_isSome]
  exact ⟨h, List.mem_reverse.2 hmem, by simp⟩

/-- What is shown are the handles, if those of one full name do not differ. -/
theorem shows_iff (hunique : ∀ h ∈ c.handles, ∀ g ∈ c.handles, h.path = g.path →
      h.fieldNames = g.fieldNames) :
    c.Shows path names ↔ ∃ h ∈ c.handles, h.path = path ∧ h.fieldNames = names := by
  constructor
  · rintro ⟨h, hfind, rfl⟩
    obtain ⟨hmem, hpath⟩ := path_of_find? hfind
    exact ⟨h, hmem, hpath, rfl⟩
  · rintro ⟨h, hmem, rfl, rfl⟩
    obtain ⟨g, hg⟩ := exists_find? hmem
    obtain ⟨hgmem, hpath⟩ := path_of_find? hg
    exact ⟨g, hg, hunique g hgmem h hmem hpath⟩

/-- The handle of another type is found as before. -/
theorem find?_register_of_ne {h : TypeHandle} (hne : h.path ≠ path) :
    (c.register h).2.find? path = c.find? path := by
  simp only [register, Registry.register]
  split
  · rfl
  · simp [find?, Registry.find?, lastNamed?, hne]

end Catalog

/-! ## Mirrors -/

/-- The catalog of the foundry shows what the units of its store declare, and these are types of its
modules. -/
structure Foundry.Mirrors (f : Foundry) (w : World) : Prop where
  shows : ∀ path names, f.catalog.Shows path names ↔ f.store.Declares w path names
  home : ∀ path names, f.store.Declares w path names → path.modules = f.modules

namespace Foundry

variable {f f' : Foundry} {w w' : World}

theorem Mirrors.within (h : f.Mirrors w) : f.catalog.Within f.modules := by
  intro g hg
  obtain ⟨g', hg'⟩ := Catalog.exists_find? hg
  exact h.home _ _ ((h.shows _ _).1 ⟨g', hg', rfl⟩)

/-- Only the units matter. -/
theorem Mirrors.congr (h : f.Mirrors w) (hunits : ∀ name, f.store.unit? w' name = f.store.unit? w name) :
    f.Mirrors w' :=
  ⟨fun path names => (h.shows path names).trans (Store.declares_congr (hunits _)).symm,
    fun path names hd => h.home path names ((Store.declares_congr (hunits _)).1 hd)⟩

/-- **A foundry that was just opened** shows what the stored units declare. -/
theorem start_shows {s : Settings} (hs : s.preload = true) (hstatic : s.staticDirs = [])
    (hroot : s.sourceDir ≠ "") (hsolid : w.disk.Solid w.cwd) (htells : w.Tells)
    (htidy : Store.Tidy ⟨s.sourceDir⟩ w) (hfaithful : w.FaithfulAtStart s)
    (hrun : (start s).run w = (.ok f, w')) (path : TypePath) (names : List String) :
    f.catalog.Shows path names ↔ Store.Declares ⟨s.sourceDir⟩ w path names := by
  have hunits := mem_units_of_start hs hstatic hroot hsolid htells htidy hrun
  obtain ⟨-, -, hstarted, -⟩ := (start_ends s).of_ok hrun
  have hdeclares := Store.declares_iff htidy.written hunits
  cases hstarted with
  | empty harena hcatalog =>
    rw [hdeclares, harena, hcatalog]
    constructor
    · rintro ⟨h, hfind, -⟩
      cases hfind
    · rintro ⟨d, hd, -⟩
      cases hd
  | @preloaded units p hpreloads hp harena hcatalog =>
    rw [harena, Arena.units_push_empty, hp.units_eq] at hdeclares
    have hlayouts := hp.mem_layouts (hfaithful _ hpreloads)
    have hhandles : f.catalog.handles = (Arena.empty.next p).types := by
      simp [hcatalog, Catalog.handles, Catalog.extend, Catalog.empty, Registry.empty]
    -- a handle is that of a layout, hence of a struct that a unit declares
    have hmem : ∀ {path names}, (∃ h ∈ f.catalog.handles, h.path = path ∧ h.fieldNames = names) ↔
        Store.Declares ⟨s.sourceDir⟩ w path names := by
      intro path names
      rw [hdeclares, ← hlayouts, hhandles]
      simp [Arena.next, PendingModule.load, TypeHandle.path, TypeHandle.fieldNames, TypeHandle.fields]
    rw [Catalog.shows_iff, hmem]
    intro h hh g hg hpath
    exact (hmem.1 ⟨h, hh, hpath, rfl⟩).unique (hmem.1 ⟨g, hg, rfl, rfl⟩)

/-- **One type changes** in the catalog and in the store, to the same fields: the mirror is kept. Since
both types of one name are of the foundry's modules, the unit of the type is that of no other one. -/
theorem Mirrors.update {path : TypePath} {names : List String} (h : f.Mirrors w)
    (hstore : f'.store = f.store) (hmodules : f'.modules = f.modules)
    (hhome : path.modules = f.modules) (hshows : f'.catalog.Shows path names)
    (hdeclares : f.store.Declares w' path names)
    (hfound : ∀ other, other ≠ path → f'.catalog.find? other = f.catalog.find? other)
    (hunits : ∀ name, name ≠ path.name → f.store.unit? w' name = f.store.unit? w name) :
    f'.Mirrors w' := by
  have hothers : ∀ other names, other.name ≠ path.name →
      (f.store.Declares w' other names ↔ f.store.Declares w other names) :=
    fun other names hne => Store.declares_congr (hunits _ hne)
  constructor
  · intro other names'
    rw [hstore]
    by_cases hother : other = path
    · subst hother
      constructor
      · intro h'
        rwa [h'.unique hshows]
      · intro h'
        rwa [h'.unique hdeclares]
    · have hcatalog : f'.catalog.Shows other names' ↔ f.catalog.Shows other names' := by
        rw [Catalog.Shows, Catalog.Shows, hfound other hother]
      rw [hcatalog, h.shows]
      by_cases hname : other.name = path.name
      · refine iff_of_false (fun hold => hother ?_) fun hnew => hother (hnew.path_eq hdeclares hname)
        calc other = ⟨f.modules, other.name⟩ := by rw [← h.home other names' hold]
          _ = path := by rw [hname, ← hhome]
      · exact (hothers other names' hname).symm
  · intro other names' hd
    rw [hstore] at hd
    rw [hmodules]
    by_cases hname : other.name = path.name
    · rw [hd.path_eq hdeclares hname, hhome]
    · exact h.home _ _ ((hothers other names' hname).1 hd)

/-- A request prepares the unit of a type of the foundry's modules. -/
theorem Mirrors.prepares (h : f.Mirrors w) (hstore : f.store.AllWritten w) {q : Request}
    {name source : String} {path : TypePath} (hprepares : q.Prepares f w name source path)
    (hq : q.IsPlain) : path.modules = f.modules := by
  cases hprepares with
  | create => rfl
  | @extend _ old _ _ _ _ _ hread hpath _ =>
    have hunit := read_eq hread
    rw [place_path hq.1.isIdentifier] at hunit
    obtain ⟨path', names, -, hpath', hdeclares⟩ := hstore.declares hunit
    obtain rfl := Except.ok.inj (hpath'.symm.trans hpath)
    exact h.home _ _ hdeclares

/-- **A request that succeeds** keeps the mirror: it stores the unit of its type and registers the type
as the unit declares it. -/
theorem Mirrors.serve {f₀ : Foundry} {w₀ : World} {log : List Version} {q : Request} {a : Answer}
    {s : Foundry × World} (h : f.Mirrors w) (hcoherent : Coherent f₀ w₀ log f w)
    (hids : ∀ k < w.drawn, w₀.ids k ≠ w₀.ids w.drawn)
    (hfresh : f.store.NotNamedFor w (w.ids w.drawn)) (hstore : f₀.store.AllWritten w₀)
    (hmodules : ∀ m ∈ f₀.modules, IsPlain m) (hq : q.IsPlain) (hfaithful : w.FaithfulAt f q)
    (hrun : q.serve (f, w) = (.ok a, s)) : s.1.Mirrors s.2 := by
  obtain ⟨-, handle, text, fields, hfound, -, hunit, hfields, hnames⟩ :=
    hcoherent.offers hids hstore hmodules hq hfaithful hrun
  obtain ⟨name, source, hprepares, hestablished⟩ := Request.serve_ok hrun
  have hwrittenAll := hcoherent.allWritten hstore
  have hhome := h.prepares hwrittenAll hprepares hq
  obtain ⟨hname, rfl, -, htypePath⟩ :=
    hprepares.written hq (hcoherent.namespace_eq ▸ hmodules) hwrittenAll
  obtain ⟨p, registered, -, hfind, hs⟩ := hestablished.admitted
  obtain ⟨-, hpath, -⟩ := handle_of_find? hfind
  have hstored := hestablished.unit?_eq hname.isIdentifier hfresh
  have hstore' : s.1.store = f.store := by rw [hs]
  rw [hstore'] at hunit
  obtain rfl : source = text := by
    have := (hstored a.path.name).symm.trans hunit
    simpa using this
  refine h.update hstore' (by rw [hs]) hhome ⟨handle, ?_, rfl⟩
    ⟨source, fields, hunit, htypePath, hfields, hnames.symm⟩ (fun other hother => ?_) fun name hne => ?_
  · rw [Catalog.find?, hfound]
    rfl
  · rw [hs, Catalog.find?_register_of_ne (hpath ▸ Ne.symm hother)]
  · rw [hstored, if_neg hne]

end Foundry

end TypeFoundry
