import TypeFoundry.Proofs.Closure
import TypeFoundry.Proofs.Planning
import TypeFoundry.Proofs.Steadiness

/-!
# Types that exist

A request for a new type asks the store whether there is a unit of the name, and nothing else: it is
refused for a type that exists just if there is one (`create_refused_iff`). A unit that is there stays
there, and every type that a request made has one (`Backed`). So no type of the registry can be made
again (`create_existing`). A type of the manifest whose unit is in another file can: that it is known
does not matter (`known_not_refused`).
-/

set_option autoImplicit false

namespace TypeFoundry

open Files Files.Disk Synthesis

namespace Store

variable {s : Store} {w w' : World} {name : String}

/-- There is a unit of the type where its path leads. -/
def Has (s : Store) (w : World) (name : String) : Prop := w.disk.isFile w.cwd (s.path name) = true

theorem has_iff (hname : isIdentifier name = true) :
    s.Has w name ↔ s.Reaches w name ∧ (s.unit? w name).isSome = true := by
  rw [Has, Reaches, unit?, ← place_path hname, isFile]
  cases hloc : w.disk.locationOf w.cwd (s.path name) with
  | error cause => simp
  | ok loc =>
    obtain rfl := locationOf_eq_place hloc
    simp only [true_and, Option.isSome_iff_exists, file?_eq_some]
    split
    · rename_i c hentry
      simp [hentry]
    · rename_i hnone
      simpa using hnone

/-- A unit that is there stays if the directories stay and its file does. -/
theorem Has.evolves (h : s.Has w name) (hname : isIdentifier name = true)
    (hsolid : w.disk.Solid w.cwd) (hw : w.Evolves w')
    (hunit : s.unit? w name ≠ none → s.unit? w' name ≠ none) : s.Has w' name := by
  rw [has_iff hname, Option.isSome_iff_ne_none] at h ⊢
  exact ⟨h.1.evolves hsolid hw, hunit h.2⟩

end Store

namespace Request

variable {f : Foundry} {w : World} {q : Request} {r : Except Halt Answer} {s : Foundry × World}

theorem Prepares.path_name {name source : String} {path : TypePath}
    (h : q.Prepares f w name source path) : path.name = name := by
  cases h with
  | create => rfl
  | extend _ _ _ hpath _ => exact typePath_name hpath

/-- A unit that is there stays there. -/
theorem serve_has (hrun : q.serve (f, w) = (r, s)) (hsolid : w.disk.Solid w.cwd)
    (hfresh : f.store.NotNamedFor w (w.ids w.drawn)) {unit : String} (hunit : isIdentifier unit = true)
    (h : f.store.Has w unit) : f.store.Has s.2 unit := by
  refine h.evolves hunit hsolid (serve_evolves hrun) fun hsome => ?_
  cases r with
  | error e => rwa [(serve_error hrun).2.units hfresh]
  | ok a =>
    obtain ⟨name, source, hprepares, hestablished⟩ := serve_ok hrun
    rw [hestablished.unit?_eq (isIdentifier_of_isItemName hprepares.isItemName) hfresh]
    split
    · exact Option.some_ne_none _
    · exact hsome

/-- What is served has a unit then. -/
theorem serve_ok_has {a : Answer} (hrun : q.serve (f, w) = (.ok a, s)) (hsolid : w.disk.Solid w.cwd)
    (hfresh : f.store.NotNamedFor w (w.ids w.drawn)) :
    isIdentifier a.path.name = true ∧ f.store.Has s.2 a.path.name := by
  obtain ⟨name, source, hprepares, hestablished⟩ := serve_ok hrun
  have hname := isIdentifier_of_isItemName hprepares.isItemName
  obtain rfl := hprepares.path_name
  refine ⟨hname, (Store.has_iff hname).2 ⟨serve_reaches hrun hsolid, ?_⟩⟩
  rw [hestablished.unit?_eq hname hfresh, if_pos rfl]
  rfl

/-! ## New types -/

section

variable {n : String}

theorem requireName_of_isPlain (hn : TypeFoundry.IsPlain n) (what : String) :
    requireName what n = .ok () := by
  rw [requireName, hn.accepted]

theorem check_of_isPlain (hn : TypeFoundry.IsPlain n) : TypeRequest.check ⟨n⟩ = .ok () :=
  requireName_of_isPlain hn _

/-- The request is for a type that has a unit: it is refused, and nothing happens. -/
theorem serve_create_has (hn : TypeFoundry.IsPlain n) (h : f.store.Has w n) :
    serve (create ⟨n⟩) (f, w) = (.error (.failure (.alreadyExists n)), f, w) := by
  have hplan : planNew f w ⟨n⟩ = .error (.failure (.alreadyExists n)) := by
    rw [planNew_of_check (check_of_isPlain hn)]
    exact if_pos h
  have hends : Ends (create ⟨n⟩).run (f, w) (fun _ _ => False)
      fun e s => e = .failure (.alreadyExists n) ∧ s = (f, w) := by
    refine create_planned _ (fun e he => ?_) fun p hp => ?_
    · exact ⟨(Except.error.inj (hplan.symm.trans he)).symm, rfl⟩
    · cases hplan.symm.trans hp
  generalize hrun : serve (create ⟨n⟩) (f, w) = result
  obtain ⟨e | a, s⟩ := result
  · obtain ⟨rfl, rfl⟩ := hends.of_error hrun
    rfl
  · exact (hends.of_ok hrun).elim

/-- The request is for a field of a type without a unit: there is nothing to plan. -/
theorem plan_extend_missing {r : FieldRequest} (hn : TypeFoundry.IsPlain n)
    (hr : TypeFoundry.IsPlain r.name) (h : ¬ f.store.Has w n) :
    plan f w (extend n r) = .error (.failure (.notFound n)) := by
  have hname := requireName_of_isPlain hn "type name"
  have hcheck : r.check = .ok () := requireName_of_isPlain hr _
  have htext : storedText f w n = .error (.failure (.notFound n)) := if_neg h
  simp only [plan, planField, hname, hcheck, htext, Except.mapError, bind, Except.bind]

/-- The type is not found then, and nothing happens. -/
theorem serve_extend_missing {r : FieldRequest} (hn : TypeFoundry.IsPlain n)
    (hr : TypeFoundry.IsPlain r.name) (h : ¬ f.store.Has w n) :
    serve (extend n r) (f, w) = (.error (.failure (.notFound n)), f, w) := by
  have hname := requireName_of_isPlain hn "type name"
  have hcheck : r.check = .ok () := requireName_of_isPlain hr _
  have hends : Ends (extend n r).run (f, w) (fun _ _ => False)
      fun e s => e = .failure (.notFound n) ∧ s = (f, w) := by
    refine Ends.bind (Q := fun _ _ => False) ?_ (fun _ _ h => h.elim) fun _ _ h => h
    refine foundry_ends.bind ?_ (fun _ _ h => h)
    rintro _ _ ⟨rfl, rfl⟩
    rename_i f
    refine (ofAction_ends (Action.ofExcept_ends _)).bind ?_ ?_
    · rintro _ _ ⟨_, rfl, -, rfl⟩
      refine (ofAction_ends (Action.ofExcept_ends _)).bind ?_ ?_
      · rintro _ _ ⟨w, rfl, -, rfl⟩
        refine (ofAction_ends (Action.isFile_ends _)).bind ?_ fun _ _ ⟨_, _, h⟩ => h.elim
        rintro found _ ⟨_, rfl, rfl, rfl⟩
        split
        · rename_i hfound
          exact absurd hfound h
        · exact ends_throw ⟨rfl, rfl⟩
      · rintro _ _ ⟨_, rfl, e, he, -⟩
        rw [hcheck] at he
        cases he
    · rintro _ _ ⟨_, rfl, e, he, -⟩
      rw [hname] at he
      cases he
  generalize hrun : serve (extend n r) (f, w) = result
  obtain ⟨e | a, s⟩ := result
  · obtain ⟨rfl, rfl⟩ := hends.of_error hrun
    rfl
  · exact (hends.of_ok hrun).elim

/-- A type is refused as one that exists only if it has a unit. -/
theorem has_of_alreadyExists (hn : TypeFoundry.IsPlain n)
    (hrun : serve (create ⟨n⟩) (f, w) = (.error (.failure (.alreadyExists n)), s)) : f.store.Has w n := by
  have hends : Ends (create ⟨n⟩).run (f, w) (fun _ _ => True)
      fun e _ => e = .failure (.alreadyExists n) → f.store.Has w n := by
    refine create_planned _ (fun e he => ?_) fun p hp => ?_
    · rintro rfl
      rw [planNew_of_check (check_of_isPlain hn)] at he
      split at he
      · assumption
      · unfold newType at he
        split at he <;> cases he
    · refine (establish_ends _ _ _).mono (fun _ _ _ => trivial) ?_
      rintro h _ ⟨w', rfl, hhalt, -⟩ rfl
      exact absurd (by simp [Failure.kind, declinedKinds]) (kind_not_declined hhalt)
  exact hends.of_error hrun rfl

/-- **A request for a new type** is refused because the type exists just if there is a unit of it. Then
everything stays as it is. -/
theorem create_refused_iff (hn : TypeFoundry.IsPlain n) :
    serve (create ⟨n⟩) (f, w) = (.error (.failure (.alreadyExists n)), f, w) ↔ f.store.Has w n :=
  ⟨has_of_alreadyExists hn, serve_create_has hn⟩

end

/-! ## Registered types -/

end Request

theorem Catalog.mem_entries_register {c : Catalog} {h g : TypeHandle}
    (hg : g ∈ (c.register h).2.registry.entries) : g ∈ c.registry.entries ∨ g = h := by
  simp only [register, Registry.register] at hg
  split at hg
  · exact .inl hg
  · simpa using hg

theorem Catalog.manifest_register (c : Catalog) (h : TypeHandle) :
    (c.register h).2.manifest = c.manifest := rfl

/-- The manifest of a foundry stays what it was. -/
theorem Request.serve_manifest {q : Request} {f : Foundry} {w : World} {r : Except Halt Answer}
    {s : Foundry × World} (h : q.serve (f, w) = (r, s)) :
    s.1.catalog.manifest = f.catalog.manifest := by
  obtain hs | ⟨a, p, handle, -, -, -, hs⟩ := serve_foundry h
  · rw [hs]
  · rw [hs, Catalog.manifest_register]

/-- A foundry that was just opened has registered nothing. -/
theorem Foundry.start_registry {settings : Settings} {f : Foundry} {w w' : World}
    (hrun : (Foundry.start settings).run w = (.ok f, w')) : f.catalog.registry.entries = [] := by
  obtain ⟨-, -, hstarted, -⟩ := (start_ends settings).of_ok hrun
  exact (hstarted.coherent (w := w)).1.registered

/-- There is a unit of every type that was registered. -/
structure Foundry.Housed (f : Foundry) (w : World) : Prop where
  solid : w.disk.Solid w.cwd
  apart : ∀ k, f.store.NotNamedFor w (w.ids k)
  units : ∀ h ∈ f.catalog.registry.entries, isIdentifier h.name = true ∧ f.store.Has w h.name

namespace Foundry.Housed

variable {f f' : Foundry} {w w' : World}

/-- **Serving a request** keeps the units of all registered types, and has stored that of the type that
it registers. -/
theorem serve {q : Request} {r : Except Halt Answer} {s : Foundry × World} (h : f.Housed w)
    (hrun : q.serve (f, w) = (r, s)) : s.1.Housed s.2 := by
  have hevolves := Request.serve_evolves hrun
  have hstore := Request.serve_store hrun
  have hcwd := hevolves.cwd
  have hids := (Request.serve_leads hrun).ids
  have hold : ∀ g ∈ f.catalog.registry.entries, isIdentifier g.name = true ∧ f.store.Has s.2 g.name :=
    fun g hg => ⟨(h.units g hg).1, Request.serve_has hrun h.solid (h.apart _) (h.units g hg).1
      (h.units g hg).2⟩
  refine ⟨hcwd ▸ (hevolves.disk h.solid).1, fun k => ?_, fun g hg => ?_⟩
  · rw [hstore, hids, Store.NotNamedFor, hcwd]
    exact h.apart k
  · rw [hstore]
    obtain hs | ⟨a, p, handle, rfl, hpath, -, hs⟩ := Request.serve_foundry hrun
    · rw [hs] at hg
      exact hold g hg
    · rw [hs] at hg
      obtain hg | rfl := Catalog.mem_entries_register hg
      · exact hold g hg
      · rw [TypeHandle.name, hpath]
        exact Request.serve_ok_has hrun h.solid (h.apart _)

theorem start {settings : Settings} (hrun : (Foundry.start settings).run w = (.ok f, w'))
    (hsolid : w.disk.Solid w.cwd) (hfresh : ∀ k, Store.NotNamedFor ⟨settings.sourceDir⟩ w (w.ids k)) :
    f.Housed w' := by
  obtain ⟨hstore, -, -, hleads, -⟩ := (start_ends settings).of_ok hrun
  have hevolves := (Steady.start settings).evolves hrun
  have hentries := start_registry hrun
  refine ⟨hleads.cwd ▸ (hevolves.disk hsolid).1, fun k => ?_, by simp [hentries]⟩
  rw [hstore, hleads.ids, Store.NotNamedFor, hleads.cwd]
  exact hfresh k

end Foundry.Housed

/-- **Types that exist.** After any requests on a foundry that was opened over any units, a request for a
new type is refused because the type exists, with everything left as it is, just if there is a unit of the
name. There is one if the type was registered under that full name, or if there was one when the foundry
was opened. So a known type for which the request is not refused is one of the manifest, and its unit has
not been in the file of its name. -/
theorem create_existing {settings : Settings} {f f' : Foundry} {w₀ w w' : World} {qs : List Request}
    {rs : List (Except Halt Answer)} (hstart : (Foundry.start settings).run w₀ = (.ok f, w))
    (hrun : Request.serveAll qs (f, w) = (rs, f', w')) (hsolid : w₀.disk.Solid w₀.cwd)
    (hfresh : ∀ k, Store.NotNamedFor ⟨settings.sourceDir⟩ w₀ (w₀.ids k)) {n : String} (hn : IsPlain n) :
    let path : TypePath := ⟨f'.modules, n⟩
    let refused : Except Halt Answer × Foundry × World := (.error (.failure (.alreadyExists n)), f', w')
    ((Request.create ⟨n⟩).serve (f', w') = refused ↔ f'.store.Has w' n) ∧
    ((f'.catalog.registry.find? path).isSome = true ∨ Store.Has ⟨settings.sourceDir⟩ w₀ n →
      f'.store.Has w' n) ∧
    ∀ h, f'.catalog.find? path = some h → (Request.create ⟨n⟩).serve (f', w') = refused ∨
      (h ∈ f.catalog.manifest ∧ ¬ Store.Has ⟨settings.sourceDir⟩ w₀ n ∧ ¬ f'.store.Has w' n) := by
  intro path refused
  have hname := hn.isIdentifier
  obtain ⟨hstore, -, -, hleads, -⟩ := (Foundry.start_ends settings).of_ok hstart
  have hhoused := Foundry.Housed.start hstart hsolid hfresh
  -- what was there when the foundry was opened stays
  obtain ⟨hhoused', hstore', hmanifest, hkept⟩ : f'.Housed w' ∧ f'.store = f.store ∧
      f'.catalog.manifest = f.catalog.manifest ∧ (f.store.Has w n → f'.store.Has w' n) := by
    refine Request.serveAll_keeps (P := fun g v => g.Housed v ∧ g.store = f.store ∧
      g.catalog.manifest = f.catalog.manifest ∧ (f.store.Has w n → g.store.Has v n)) ?_
      ⟨hhoused, rfl, rfl, id⟩ hrun
    rintro g v q r s ⟨hg, hgstore, hgmanifest, hgkept⟩ hserve
    have hsstore := Request.serve_store hserve
    refine ⟨hg.serve hserve, hsstore.trans hgstore,
      (Request.serve_manifest hserve).trans hgmanifest, fun h => ?_⟩
    rw [hsstore]
    exact Request.serve_has hserve hg.solid (hg.apart _) hname (hgkept h)
  have hopened : Store.Has ⟨settings.sourceDir⟩ w₀ n → f'.store.Has w' n := by
    intro h
    refine hkept (hstore ▸ h.evolves hname hsolid ((Steady.start settings).evolves hstart) ?_)
    rw [← Foundry.start_unit? hstart (hfresh _), hstore]
    exact id
  have hregistered : (f'.catalog.registry.find? path).isSome = true → f'.store.Has w' n := by
    intro h
    obtain ⟨g, hg⟩ := Option.isSome_iff_exists.1 h
    obtain ⟨hmem, hpath⟩ := mem_of_lastNamed? hg
    have hhas := (hhoused'.units g hmem).2
    rwa [TypeHandle.name, hpath] at hhas
  refine ⟨Request.create_refused_iff hn, fun h => h.elim hregistered hopened, fun h hknown => ?_⟩
  by_cases hhas : f'.store.Has w' n
  · exact .inl (Request.serve_create_has hn hhas)
  · refine .inr ⟨?_, mt hopened hhas, hhas⟩
    rw [Catalog.find?, Option.orElse_eq_or, Option.or_eq_some_iff] at hknown
    obtain hfound | ⟨-, hfound⟩ := hknown
    · exact absurd (hregistered (by rw [hfound]; rfl)) hhas
    · exact hmanifest ▸ (mem_of_lastNamed? hfound).1

/-- A type that was made cannot be made again. -/
theorem create_existing_fresh : ∃ a f w,
    (Request.create ⟨"T"⟩).serve (.fresh, .fresh) = (.ok a, f, w) ∧
    (Request.create ⟨"T"⟩).serve (f, w) = (.error (.failure (.alreadyExists "T")), f, w) := by
  obtain ⟨⟨f, w⟩, hserve⟩ := Foundry.serve_fresh
  have hrun : Request.serveAll [.create ⟨"T"⟩] (Foundry.fresh, World.fresh) =
      ([.ok (.created ⟨⟨["m"], "T"⟩, "units/T.rs"⟩)], f, w) := by
    rw [Request.serveAll, hserve]
    rfl
  obtain ⟨hrefused, -⟩ := create_existing Foundry.start_fresh hrun solid_empty
    Foundry.notNamedFor_fresh (Foundry.isPlain_fresh "T" (by simp))
  have hhas := (Request.serve_ok_has hserve solid_empty (Foundry.notNamedFor_fresh 0)).2
  rw [← Request.serve_store hserve] at hhas
  exact ⟨_, f, w, hserve, hrefused.2 hhas⟩

/-- A world with a unit outside of the directory of the store. Its toolchain answers all crates with the
type of the unit. -/
def World.shelved : World :=
  { World.fresh with
    disk := ⟨[(["static"], .directory),
      (["static", "other.rs"], .file (.text "mod m \x7b struct T \x7b \x7d \x7d"))]⟩
    toolchain := ⟨fun _ => none,
      fun _ _ => .success (.descriptor ("type\tm::T\t0\t1\n".toList.map fun c => .ofNat c.toNat))⟩ }

/-- **A known type is not refused.** The manifest has it, from a unit in another directory, but there is
no file of its name in the store. -/
theorem known_not_refused : ∃ f w h,
    (Foundry.start { Foundry.freshSettings with preload := true, staticDirs := ["static"] }).run
      .shelved = (.ok f, w) ∧
    f.catalog.find? ⟨f.modules, "T"⟩ = some h ∧
    ((Request.create ⟨"T"⟩).serve (f, w)).1 ≠ .error (.failure (.alreadyExists "T")) := by
  let opened := (Foundry.start { Foundry.freshSettings with
    preload := true, staticDirs := ["static"] }).run .shelved
  have hopened : opened.1.toOption.map (fun f => ((f.catalog.find? ⟨f.modules, "T"⟩).isSome,
      opened.2.disk.isFile opened.2.cwd (f.store.path "T"))) = some (true, false) := by
    decide +kernel
  obtain ⟨⟨_ | f, w⟩, hstart⟩ : ∃ result, opened = result := ⟨_, rfl⟩
  · rw [hstart] at hopened
    cases hopened
  rw [hstart] at hopened
  obtain ⟨hknown, hmissing⟩ := Prod.mk.inj (Option.some.inj hopened)
  obtain ⟨h, hfind⟩ := Option.isSome_iff_exists.1 hknown
  refine ⟨f, w, h, hstart, hfind, fun hrefused => ?_⟩
  have hhas := Request.has_of_alreadyExists (Foundry.isPlain_fresh "T" (by simp))
    (Prod.ext hrefused rfl)
  rw [Store.Has] at hhas
  cases hhas.symm.trans hmissing

end TypeFoundry
