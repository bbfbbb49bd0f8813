import TypeFoundry.Proofs.Mirroring

/-!
# Restarts

A foundry is opened with the same settings again and again and serves requests in between (`Lasting`).
Its directory was empty at first, so requests wrote all units. Whatever was made before it was opened
again is there afterwards (`Lasting.restart_keeps`): the units, the list of types, and the entities
with their fields. The invariant is `Lasting.Settled`, above all that the catalog mirrors the store.
-/

set_option autoImplicit false

namespace TypeFoundry

open Source Synthesis Files Files.Disk

/-- The settings have all units of their one directory compiled at the start, and types declared in
plain modules. -/
structure Settings.Standalone (s : Settings) : Prop where
  preload : s.preload = true
  staticDirs : s.staticDirs = []
  modules : ∀ modules, s.segments = .ok modules → ∀ m ∈ modules, IsPlain m

/-- The settings name a directory for units in which nothing stands; it may be missing. The empty text
names no directory. -/
structure Settings.Vacant (s : Settings) (w : World) : Prop where
  named : s.sourceDir ≠ ""
  empty : w.disk.names (place w.cwd s.sourceDir) = []

/-- Whether the answer is to the request for a new type. -/
def Answer.isCreated : Answer → Bool
  | created _ => true
  | extended _ => false

/-- What has become of a world in which foundries are opened with the settings, one after the other,
and serve requests with plain names: the answers to the requests that succeeded, the foundry that was
opened last, as it is now, and that foundry if it is still open. The toolchain was faithful to whatever
was handed to it. -/
inductive Lasting (s : Settings) (w₀ : World) :
    List Answer → Option Foundry → Option Foundry → World → Prop where
  | start : Lasting s w₀ [] none none w₀
  | opened {answers : List Answer} {last? open? : Option Foundry} {w w' : World} {f : Foundry} :
    Lasting s w₀ answers last? open? w → w.FaithfulAtStart s →
    (Foundry.start s).run w = (.ok f, w') → Lasting s w₀ answers (some f) (some f) w'
  | failed {answers : List Answer} {last? open? : Option Foundry} {w w' : World} {h : Halt} :
    Lasting s w₀ answers last? open? w → w.FaithfulAtStart s →
    (Foundry.start s).run w = (.error h, w') → Lasting s w₀ answers last? none w'
  | served {answers : List Answer} {last? : Option Foundry} {f f' : Foundry} {w w' : World}
      {q : Request} {r : Except Halt Answer} :
    Lasting s w₀ answers last? (some f) w → q.IsPlain → w.FaithfulAt f q →
    q.serve (f, w) = (r, f', w') →
    Lasting s w₀ (answers ++ r.toOption.toList) (some f') (some f') w'

/-! ## Units that stay -/

/-- Opening a foundry, or failing to, leaves all units. -/
theorem Foundry.start_units_eq {s : Settings} {w w' : World} {r : Except Halt Foundry}
    (hrun : (Foundry.start s).run w = (r, w'))
    (hfresh : Store.NotNamedFor ⟨s.sourceDir⟩ w (w.ids w.drawn)) (name : String) :
    Store.unit? ⟨s.sourceDir⟩ w' name = Store.unit? ⟨s.sourceDir⟩ w name := by
  have hkept : w.Leads w' → SameFiles (OutsideCrate (w.ids w.drawn)) w.disk w'.disk →
      Store.unit? ⟨s.sourceDir⟩ w' name = Store.unit? ⟨s.sourceDir⟩ w name := by
    intro hw hd
    rw [Store.unit?, hw.cwd, hd _ (hfresh.outsideCrate name)]
    rfl
  cases r with
  | ok f =>
    obtain ⟨-, -, -, hw, hd⟩ := (Foundry.start_ends s).of_ok hrun
    exact hkept hw hd
  | error e =>
    obtain ⟨-, hw, hd⟩ := (Foundry.start_ends s).of_error hrun
    exact hkept hw hd

/-- A store stays tidy where its units stay. -/
theorem Store.Tidy.congr {s : Store} {w w' : World} (h : s.Tidy w) (hsolid : w.disk.Solid w.cwd)
    (hw : w.Evolves w') (hunits : ∀ name, s.unit? w' name = s.unit? w name) : s.Tidy w' := by
  constructor
  · intro name content hunit
    exact h.written name content (hunits name ▸ hunit)
  · intro name content hunit
    exact (h.reaches name content (hunits name ▸ hunit)).evolves hsolid hw

/-- A store stays tidy where one unit is replaced by another that requests wrote. -/
theorem Store.Tidy.update {s : Store} {w w' : World} {name source : String} (h : s.Tidy w)
    (hsolid : w.disk.Solid w.cwd) (hw : w.Evolves w') (hwritten : Written name source)
    (hreaches : s.Reaches w' name)
    (hunits : ∀ unit, s.unit? w' unit = if unit = name then some (.text source) else s.unit? w unit) :
    s.Tidy w' := by
  constructor <;> intro unit content hunit
  · rw [hunits] at hunit
    split at hunit
    · rename_i heq
      exact ⟨source, (Option.some.inj hunit).symm, heq ▸ hwritten⟩
    · exact h.written unit content hunit
  · rw [hunits] at hunit
    split at hunit
    · rename_i heq
      exact heq ▸ hreaches
    · exact (h.reaches unit content hunit).evolves hsolid hw

theorem Request.isCreated_of_serve {r : TypeRequest} {f : Foundry} {w : World} {a : Answer}
    {s : Foundry × World} (h : (create r).serve (f, w) = (.ok a, s)) : a.isCreated = true := by
  have hends : Ends (create r).run (f, w) (fun a _ => a.isCreated = true) fun _ _ => True :=
    run_prepared _ (fun _ _ _ => trivial) fun _ _ _ _ _ =>
      (establish_ends _ _ _).mono (fun _ _ _ => rfl) fun _ _ _ => trivial
  exact hends.of_ok h

/-- A request is for a new type, or the type has a unit. -/
theorem Request.Prepares.new_or_stored {f : Foundry} {w : World} {q : Request} {name source : String}
    {path : TypePath} (h : q.Prepares f w name source path) (hq : q.IsPlain) :
    (∃ r, q = Request.create r) ∨ ∃ text, f.store.unit? w name = some (.text text) := by
  cases h with
  | create => exact .inl ⟨_, rfl⟩
  | extend _ _ hread =>
    have hunit := read_eq hread
    rw [place_path hq.1.isIdentifier] at hunit
    exact .inr ⟨_, hunit⟩

/-- A foundry that was just opened has types of the assembly only. -/
theorem Foundry.Started.assembly {s : Settings} {w : World} {f : Foundry} (h : Started s w f) :
    f.catalog.registry.entries = [] ∧ ∀ g ∈ f.catalog.handles, g.module.origin = .assembly := by
  cases h with
  | empty _ hcatalog =>
    rw [hcatalog]
    exact ⟨rfl, fun g hg => nomatch hg⟩
  | @preloaded _ p _ hp _ hcatalog =>
    rw [hcatalog]
    refine ⟨rfl, fun g hg => ?_⟩
    have hg : g ∈ (Arena.empty.next p).types := by
      simpa [Catalog.handles, Catalog.extend, Catalog.empty, Registry.empty] using hg
    obtain ⟨t, -, rfl⟩ := List.mem_map.1 hg
    exact hp.origin_eq

namespace Lasting

variable {s : Settings} {w₀ w w' : World} {answers : List Answer} {last? open? : Option Foundry}

theorem last_of_open {f : Foundry} (h : Lasting s w₀ answers last? (some f) w) : last? = some f := by
  cases h <;> rfl

/-- Foundries that are opened again and again make up a session. -/
theorem session (h : Lasting s w₀ answers last? open? w) (hs : s.Standalone) :
    Session ⟨s.sourceDir⟩ w₀ open? w := by
  have hfit : s.Fit ⟨s.sourceDir⟩ := ⟨rfl, hs.modules⟩
  induction h with
  | start => exact .start
  | opened _ hfaithful hrun ih => exact .opened ih hfit hfaithful hrun
  | failed _ hfaithful hrun ih => exact .failed ih hfit hfaithful hrun
  | served _ hq hfaithful hrun ih => exact .served ih hq hfaithful hrun

/-- What holds all the time: the store is tidy, its units are of types of the namespace, there are
units just if a type was ever made, and the catalog of the last foundry mirrors the store. -/
structure Settled (s : Settings) (w₀ : World) (answers : List Answer) (last? : Option Foundry)
    (w : World) : Prop where
  leads : w₀.Leads w
  evolves : w₀.Evolves w
  tidy : Store.Tidy ⟨s.sourceDir⟩ w
  home : ∀ path names, Store.Declares ⟨s.sourceDir⟩ w path names → s.segments = .ok path.modules
  created : answers.any Answer.isCreated = true ↔
    ∃ name content, Store.unit? ⟨s.sourceDir⟩ w name = some content
  mirrors : ∀ f, last? = some f → f.store = ⟨s.sourceDir⟩ ∧ s.segments = .ok f.modules ∧ f.Mirrors w

theorem settled_start (hvacant : s.Vacant w₀) : Settled s w₀ [] none w₀ := by
  have hnone : ∀ name content, Store.unit? ⟨s.sourceDir⟩ w₀ name ≠ some content := by
    intro name content hunit
    have hmem := mem_names.2 ⟨_, file?_eq_some.1 hunit⟩
    rw [hvacant.empty] at hmem
    cases hmem
  refine ⟨.refl w₀, .refl w₀, ⟨?_, ?_⟩, ?_, ?_, by simp⟩
  · exact fun name content hunit => (hnone _ _ hunit).elim
  · exact fun name content hunit => (hnone _ _ hunit).elim
  · rintro path names ⟨text, _, hunit, -⟩
    exact (hnone _ _ hunit).elim
  · simp [hnone]

theorem Settled.solid (h : Settled s w₀ answers last? w) (hsolid : w₀.disk.Solid w₀.cwd) :
    w.disk.Solid w.cwd := h.evolves.cwd ▸ (h.evolves.disk hsolid).1

theorem Settled.tells (h : Settled s w₀ answers last? w) (htells : w₀.Tells) : w.Tells := by
  intro n o ho
  rw [h.evolves.obstacles] at ho
  exact htells n o ho

/-- Opening a foundry, or failing to, leaves everything as it was; the new foundry mirrors the store. -/
theorem Settled.start {r : Except Halt Foundry} (h : Settled s w₀ answers last? w) (hs : s.Standalone)
    (hnamed : s.sourceDir ≠ "") (hsolid : w₀.disk.Solid w₀.cwd) (htells : w₀.Tells)
    (hfresh : Store.NotNamedFor ⟨s.sourceDir⟩ w (w.ids w.drawn)) (hfaithful : w.FaithfulAtStart s)
    (hrun : (Foundry.start s).run w = (r, w')) : Settled s w₀ answers (r.toOption.or last?) w' := by
  have hsolid := h.solid hsolid
  have htells := h.tells htells
  have hunits := Foundry.start_units_eq hrun hfresh
  have hevolves := (Steady.start s).evolves hrun
  have hdeclares : ∀ path names, Store.Declares ⟨s.sourceDir⟩ w' path names ↔
      Store.Declares ⟨s.sourceDir⟩ w path names := fun path names => Store.declares_congr (hunits _)
  refine ⟨h.leads.trans (Session.start_leads hrun), h.evolves.trans hevolves,
    h.tidy.congr hsolid hevolves hunits, ?_, ?_, ?_⟩
  · exact fun path names hd => h.home path names ((hdeclares path names).1 hd)
  · simp only [hunits]
    exact h.created
  · intro f hf
    cases r with
    | error e =>
      obtain ⟨hstore, hsegments, hmirrors⟩ := h.mirrors f hf
      exact ⟨hstore, hsegments, hmirrors.congr (hstore ▸ hunits)⟩
    | ok g =>
      obtain rfl : g = f := Option.some.inj hf
      obtain ⟨hstore, hsegments, -⟩ := (Foundry.start_ends s).of_ok hrun
      have hshows := Foundry.start_shows hs.preload hs.staticDirs hnamed hsolid htells h.tidy hfaithful hrun
      refine ⟨hstore, hsegments, fun path names => ?_, fun path names hd => ?_⟩
      · rw [hshows, hstore, hdeclares]
      · rw [hstore, hdeclares] at hd
        exact Except.ok.inj ((h.home path names hd).symm.trans hsegments)

/-- A request that fails leaves everything as it was. -/
theorem Settled.serve_error {f f' : Foundry} {q : Request} {e : Halt}
    (h : Settled s w₀ answers (some f) w) (hsolid : w₀.disk.Solid w₀.cwd)
    (hfresh : Store.NotNamedFor ⟨s.sourceDir⟩ w (w.ids w.drawn))
    (hrun : q.serve (f, w) = (.error e, f', w')) : Settled s w₀ answers (some f') w' := by
  have hsolid := h.solid hsolid
  obtain ⟨hstore, hsegments, hmirrors⟩ := h.mirrors f rfl
  obtain ⟨rfl, hhalt⟩ := Request.serve_error hrun
  have hunits := hhalt.units (hstore ▸ hfresh)
  rw [hstore] at hunits
  have hevolves := Request.serve_evolves hrun
  refine ⟨h.leads.trans (Request.serve_leads hrun), h.evolves.trans hevolves,
    h.tidy.congr hsolid hevolves hunits, ?_, ?_, ?_⟩
  · exact fun path names hd => h.home path names ((Store.declares_congr (hunits _)).1 hd)
  · simp only [hunits]
    exact h.created
  · rintro _ ⟨⟩
    exact ⟨hstore, hsegments, hmirrors.congr (hstore ▸ hunits)⟩

/-- A request that succeeds stores a unit that can be reached, and the foundry mirrors the store. -/
theorem Settled.serve_ok {f f' : Foundry} {q : Request} {a : Answer}
    (h : Settled s w₀ answers (some f) w) (hsolid : w₀.disk.Solid w₀.cwd)
    (hopened : f.OpenedOver ⟨s.sourceDir⟩ w₀ w) (hids : ∀ i < w.drawn, w₀.ids i ≠ w₀.ids w.drawn)
    (hfresh : Store.NotNamedFor ⟨s.sourceDir⟩ w (w.ids w.drawn)) (hq : q.IsPlain)
    (hfaithful : w.FaithfulAt f q) (hrun : q.serve (f, w) = (.ok a, f', w')) :
    Settled s w₀ (answers ++ [a]) (some f') w' := by
  have hsolid := h.solid hsolid
  obtain ⟨hstore, hsegments, hmirrors⟩ := h.mirrors f rfl
  obtain ⟨f₀, w₁, log, hcoherent, hstore₀, hw₁, hwritten₀, hmodules⟩ := hopened
  have hids : ∀ k < w.drawn, w₁.ids k ≠ w₁.ids w.drawn := hw₁.ids.symm ▸ hids
  have hmirrors' := hmirrors.serve hcoherent hids (hstore ▸ hfresh) (hstore₀.symm ▸ hwritten₀) hmodules
    hq hfaithful hrun
  obtain ⟨name, source, hprepares, hestablished⟩ := Request.serve_ok hrun
  have hnew := hprepares.new_or_stored hq
  obtain ⟨hname, rfl, hwritten, -⟩ := hprepares.written hq (hcoherent.namespace_eq ▸ hmodules)
    (hstore.symm ▸ h.tidy.written)
  have hunits := hestablished.unit?_eq hname.isIdentifier (hstore ▸ hfresh)
  have hevolves := Request.serve_evolves hrun
  have hreaches := Request.serve_reaches hrun hsolid
  rw [hstore] at hnew hunits hreaches
  obtain ⟨p, handle, -, -, hs⟩ := hestablished.admitted
  dsimp only at hs
  have hstore' : f'.store = ⟨s.sourceDir⟩ := by rw [hs, hstore]
  have hsegments' : s.segments = .ok f'.modules := by rw [hs, hsegments]
  refine ⟨h.leads.trans (Request.serve_leads hrun), h.evolves.trans hevolves,
    h.tidy.update hsolid hevolves hwritten hreaches hunits, ?_, ?_, ?_⟩
  · intro path names hd
    rw [hsegments', hmirrors'.home path names (hstore'.symm ▸ hd)]
  · refine iff_of_true ?_ ⟨a.path.name, _, (hunits _).trans (if_pos rfl)⟩
    rw [List.any_append, Bool.or_eq_true]
    obtain ⟨r, rfl⟩ | ⟨text, hunit⟩ := hnew
    · exact .inr (by simpa using Request.isCreated_of_serve hrun)
    · exact .inl (h.created.2 ⟨_, _, hunit⟩)
  · rintro _ ⟨⟩
    exact ⟨hstore', hsegments', hmirrors'⟩

/-- **The invariant of restarts.** -/
theorem settled (h : Lasting s w₀ answers last? open? w) (hs : s.Standalone) (hvacant : s.Vacant w₀)
    (hsolid : w₀.disk.Solid w₀.cwd) (htells : w₀.Tells)
    (hids : ∀ j ≤ w.drawn, ∀ i < j, w₀.ids i ≠ w₀.ids j)
    (hfresh : ∀ k, Store.NotNamedFor ⟨s.sourceDir⟩ w₀ (w₀.ids k)) :
    Settled s w₀ answers last? w := by
  have hstore : Store.AllWritten ⟨s.sourceDir⟩ w₀ := (settled_start hvacant).tidy.written
  induction h with
  | start => exact settled_start hvacant
  | opened h hfaithful hrun ih =>
    have hbefore := ih fun j hj => hids j (Nat.le_trans hj (Session.start_leads hrun).drawn)
    have hnamed := Store.NotNamedFor.of_leads hfresh hbefore.leads
    exact hbefore.start hs hvacant.named hsolid htells (hnamed _) hfaithful hrun
  | failed h hfaithful hrun ih =>
    have hbefore := ih fun j hj => hids j (Nat.le_trans hj (Session.start_leads hrun).drawn)
    have hnamed := Store.NotNamedFor.of_leads hfresh hbefore.leads
    exact hbefore.start hs hvacant.named hsolid htells (hnamed _) hfaithful hrun
  | @served _ _ f f' _ _ _ r h hq hfaithful hrun ih =>
    have hdrawn := (Request.serve_leads hrun).drawn
    have hids := fun j hj => hids j (Nat.le_trans hj hdrawn)
    have hbefore := ih hids
    have hnamed := Store.NotNamedFor.of_leads hfresh hbefore.leads
    obtain rfl := h.last_of_open
    cases r with
    | error e =>
      rw [show (Except.error e : Except Halt Answer).toOption.toList = [] from rfl, List.append_nil]
      exact hbefore.serve_error hsolid (hnamed _) hrun
    | ok a =>
      have hopened := ((h.session hs).kept hids hfresh hstore).coherent f rfl
      exact hbefore.serve_ok hsolid hopened (hids _ (Nat.le_refl _)) (hnamed _) hq hfaithful hrun

/-- The arena of a foundry that was just opened has one module if a type was ever made, and else
none. -/
theorem Settled.size_eq {f : Foundry} (h : Settled s w₀ answers last? w) (hs : s.Standalone)
    (hnamed : s.sourceDir ≠ "") (hsolid : w₀.disk.Solid w₀.cwd) (htells : w₀.Tells)
    (hrun : (Foundry.start s).run w = (.ok f, w')) :
    f.arena.size = if answers.any Answer.isCreated then 1 else 0 := by
  have hunits := Foundry.mem_units_of_start hs.preload hs.staticDirs hnamed (h.solid hsolid)
    (h.tells htells) h.tidy hrun
  obtain ⟨-, -, hstarted, -⟩ := (Foundry.start_ends s).of_ok hrun
  cases hstarted with
  | empty harena =>
    rw [if_neg, harena]
    · rfl
    · rw [h.created]
      rintro ⟨name, content, hunit⟩
      obtain ⟨text, rfl, -⟩ := h.tidy.written name content hunit
      have hmem := (hunits text).2 ⟨name, hunit⟩
      rw [harena] at hmem
      cases hmem
  | @preloaded units _ hpreloads hp harena =>
    rw [if_pos, harena]
    · rfl
    · rw [h.created]
      obtain ⟨text, htext⟩ := List.exists_mem_of_ne_nil units hpreloads.nonempty
      have hmem : text ∈ f.arena.units := by
        rw [harena, Arena.units_push_empty, hp.units_eq]
        exact htext
      obtain ⟨name, hunit⟩ := (hunits text).1 hmem
      exact ⟨name, _, hunit⟩

end Lasting

end TypeFoundry
