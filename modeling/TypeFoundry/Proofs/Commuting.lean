import Mathlib.Data.Set.Insert
import TypeFoundry.Proofs.Existing
import TypeFoundry.Proofs.Judging
import TypeFoundry.Proofs.Mirroring

/-!
# Requests on different types commute

A request looks at the unit of its type and at the type that it refers to, and it changes the unit of its
type and what is registered under that full name. So a request on another type leaves its plan alone
(`Request.plan_after`), and two requests in either order have the same outcomes and leave the same units
and the same list of types (`serve_comm`), provided that the path of the store leads to the units that are
there. It does if it goes down only (`Store.inReach_of_down`). If it does not, a request on one type can
bring the unit of another one in reach (`serve_not_comm`).
-/

set_option autoImplicit false

namespace TypeFoundry

open Files Files.Disk Synthesis

/-! ## What is looked at -/

namespace Store

variable {s : Store} {w w' : World} {name : String}

/-- If there is a unit of the type, its path leads to it. -/
def InReach (s : Store) (w : World) (name : String) : Prop :=
  s.unit? w name ≠ none → s.Reaches w name

/-- **A store with a plain path** has all its units in reach: its path leads down, without a way back. -/
theorem inReach_of_down (hname : isIdentifier name = true) (h : w.disk.Solid w.cwd)
    (hparts : ∀ part ∈ (Path.ofText (s.path name)).parts, part ≠ ".." ∧ part.utf8ByteSize ≤ maxName)
    (hnul : '\x00' ∉ (s.path name).toList) : s.InReach w name := by
  intro hunit
  obtain ⟨c, hc⟩ := Option.ne_none_iff_exists'.1 hunit
  rw [unit?, ← place_path hname, file?_eq_some] at hc
  have hempty : s.path name ≠ "" := by
    obtain ⟨x, hx⟩ := join_eq_append s.root name Store.ending
    rw [path, hx]
    simp [ending]
  have hplace : place w.cwd (s.path name) = _ :=
    walk_down fun hup => (hparts _ hup).1 rfl
  rw [Reaches, Disk.locationOf, if_neg (by simpa using hnul), if_neg hempty]
  rw [hplace] at hc ⊢
  exact h.locate_down hparts hc

section

variable (hname : isIdentifier name = true) (hsolid : w.disk.Solid w.cwd) (hw : w.Evolves w')
  (hreach : s.InReach w name) (hunit : s.unit? w' name = s.unit? w name)

include hname hsolid hw hunit

include hreach in
/-- A unit that stays as it is is found as before. -/
theorem has_congr : s.Has w' name ↔ s.Has w name := by
  rw [has_iff hname, has_iff hname, hunit]
  refine and_congr_left fun hsome => ?_
  have hreaches := hreach (Option.isSome_iff_ne_none.1 hsome)
  exact iff_of_true (hreaches.evolves hsolid hw) hreaches

theorem read_congr (h : s.Has w name) :
    w'.disk.read w'.cwd (s.path name) = w.disk.read w.cwd (s.path name) := by
  obtain ⟨hreaches, hsome⟩ := (has_iff hname).1 h
  obtain ⟨c, hc⟩ := Option.isSome_iff_exists.1 hsome
  have hcontent := content_eq_unit hreaches hname hc
  have hcontent' := content_eq_unit (hreaches.evolves hsolid hw) hname (hunit.trans hc)
  rw [Disk.read, Disk.read, hcontent, hcontent']

end

end Store

/-- Which types are known matters for the type that the request refers to only. -/
theorem Synthesis.addField_congr {r : FieldRequest} {resolve resolve' : TypePath → Option TypePath}
    (h : ∀ path, r.kind = .reference → TypePath.parse (Text.trim (r.target.getD "")) = some path →
      resolve path = resolve' path) (source typeName : String) :
    Synthesis.addField source typeName r resolve = Synthesis.addField source typeName r resolve' := by
  have htype : ∀ current, fieldType resolve current r = fieldType resolve' current r := by
    intro current
    unfold fieldType
    cases hprimitive : primitiveName? r.kind with
    | some name => rfl
    | none =>
      have hkind : r.kind = .reference := by
        cases hkind : r.kind <;> simp_all [primitiveName?]
      have hbind : (TypePath.parse (Text.trim (r.target.getD ""))).bind resolve =
          (TypePath.parse (Text.trim (r.target.getD ""))).bind resolve' := by
        cases hpath : TypePath.parse (Text.trim (r.target.getD "")) with
        | none => rfl
        | some path => exact h path hkind hpath
      simp only [hbind]
  simp only [Synthesis.addField, addFieldTo, htype]

namespace Request

variable {f f' : Foundry} {w w' : World} {q : Request} {r : Except Halt Answer} {s : Foundry × World}

/-- The request is for a field that refers to the type. -/
def RefersTo : Request → TypePath → Prop
  | create _, _ => False
  | extend _ r, path =>
    r.kind = .reference ∧ TypePath.parse (Text.trim (r.target.getD "")) = some path

theorem IsPlain.isIdentifier_typeName (h : q.IsPlain) : isIdentifier q.typeName = true := by
  cases q with
  | create r => exact TypeFoundry.IsPlain.isIdentifier h
  | extend name r => exact h.1.isIdentifier

/-- What is planned is about the type that the request is about. -/
theorem name_of_plan {p : Plan} (h : plan f w q = .ok p) : p.name = q.typeName := by
  cases q with
  | create r =>
    simp only [plan, planNew, bind, Except.bind] at h
    repeat' split at h
    all_goals cases h <;> rfl
  | extend name r =>
    simp only [plan, planField, bind, Except.bind] at h
    repeat' split at h
    all_goals cases h <;> rfl

theorem path_of_planNew {n : TypeRequest} {p : Plan} (h : plan f w (create n) = .ok p) :
    p.path = ⟨f.modules, n.name⟩ := by
  simp only [plan, planNew, bind, Except.bind] at h
  repeat' split at h
  all_goals cases h <;> rfl

/-- **What is planned** depends on the unit of the type and on the type that is referred to. -/
theorem plan_congr (hstore : f'.store = f.store) (hmodules : f'.modules = f.modules)
    (hhas : f.store.Has w' q.typeName ↔ f.store.Has w q.typeName)
    (hread : f.store.Has w q.typeName →
      w'.disk.read w'.cwd (f.store.path q.typeName) = w.disk.read w.cwd (f.store.path q.typeName))
    (hresolve : ∀ path, q.RefersTo path → f'.catalog.resolve path = f.catalog.resolve path) :
    plan f' w' q = plan f w q := by
  have hfound : w'.disk.isFile w'.cwd (f.store.path q.typeName) =
      w.disk.isFile w.cwd (f.store.path q.typeName) := Bool.eq_iff_iff.2 hhas
  cases q with
  | create r =>
    rw [typeName] at hfound
    simp only [plan, planNew, hstore, hmodules, hfound]
  | extend name r =>
    rw [typeName] at hfound
    have hadd := Synthesis.addField_congr (r := r) fun path hkind hpath => hresolve path ⟨hkind, hpath⟩
    have htext : storedText f' w' name = storedText f w name := by
      rw [storedText, storedText, hstore, hfound]
      split
      · rename_i hstored
        rw [show w'.disk.read w'.cwd (f.store.path name) = _ from hread hstored]
        rfl
      · rfl
    simp only [plan, planField, htext, hadd]

end Request

/-! ## What is changed -/

theorem Catalog.names_register {c : Catalog} {h : TypeHandle} {path : TypePath} :
    (c.register h).2.registry.Names path ↔ path = h.path ∨ c.registry.Names path := by
  simp only [register, Registry.register]
  split
  · -- the entry that is there already is of the same full name
    rename_i hholds
    obtain ⟨g, hg, hsame⟩ := List.any_eq_true.1 hholds
    refine ⟨.inr, fun hpath => hpath.elim ?_ id⟩
    rintro rfl
    exact ⟨g, hg, of_decide_eq_true (Bool.and_eq_true_iff.1 hsame).2⟩
  · simp [Registry.Names, or_comm, eq_comm]

/-- What requests change: the units in the store and the full names in the registry. -/
structure View where
  units : String → Option Content
  names : Set TypePath

/-- What can be seen of the foundry. -/
def Foundry.view (f : Foundry) (w : World) : View :=
  ⟨f.store.unit? w, {path | f.catalog.registry.Names path}⟩

namespace View

/-- What can be seen once the plan is carried out, if it is. -/
def after (v : View) : Except (Option String) Plan → View
  | .ok p => ⟨Function.update v.units p.name (some (.text p.source)), insert p.path v.names⟩
  | .error _ => v

/-- **Plans for different types commute.** -/
theorem after_comm {d e : Except (Option String) Plan}
    (h : ∀ p q, d = .ok p → e = .ok q → p.name ≠ q.name) (v : View) :
    (v.after d).after e = (v.after e).after d := by
  cases d with
  | error _ => rfl
  | ok p =>
    cases e with
    | error _ => rfl
    | ok q => rw [after, after, after, after, Function.update_comm (h p q rfl rfl).symm, Set.insert_comm]

end View

/-- The later foundry has the same namespace and manifest, and its further types come from requests. -/
structure Foundry.Continues (f f' : Foundry) : Prop where
  modules : f'.modules = f.modules
  manifest : f'.catalog.manifest = f.catalog.manifest
  requested : f.catalog.Requested → f'.catalog.Requested

theorem Foundry.Continues.trans {f f₁ f₂ : Foundry} (h : f.Continues f₁) (h' : f₁.Continues f₂) :
    f.Continues f₂ :=
  ⟨h'.modules.trans h.modules, h'.manifest.trans h.manifest, h'.requested ∘ h.requested⟩

namespace Request

variable {f : Foundry} {w : World} {q : Request} {r : Except Halt Answer} {s : Foundry × World}
  {d : Except (Option String) Plan}

theorem serve_fixed (h : q.serve (f, w) = (r, s)) :
    s.1.compiler = f.compiler ∧ s.1.modules = f.modules := by
  obtain hs | ⟨a, p, handle, -, -, -, hs⟩ := serve_foundry h <;> rw [hs] <;> exact ⟨rfl, rfl⟩

/-- **A request changes** the unit of its type and what is registered under that full name. -/
theorem Concludes.view_eq (h : Concludes f w q d r s) (hname : isIdentifier q.typeName = true)
    (hfresh : f.store.NotNamedFor w (w.ids w.drawn)) : s.1.view s.2 = (f.view w).after d := by
  cases h with
  | @established p _ hplan hestablished =>
    rw [← name_of_plan hplan] at hname
    obtain ⟨_, handle, -, hfind, hs⟩ := hestablished.admitted
    obtain ⟨-, hpath, -⟩ := handle_of_find? hfind
    rw [View.after, Foundry.view, hs]
    congr 1
    · funext name
      rw [hestablished.unit?_eq hname hfresh, Function.update_apply]
      rfl
    · ext path
      rw [← hpath]
      exact Catalog.names_register
  | halted hf hhalt =>
    rw [View.after, Foundry.view, hf, Foundry.view, funext (hhalt.units hfresh)]

/-- The type of another full name than that of the request is known as before. -/
theorem Concludes.resolve_eq (h : Concludes f w q d r s) {path : TypePath}
    (hpath : ∀ p, plan f w q = .ok p → p.path ≠ path) :
    s.1.catalog.resolve path = f.catalog.resolve path := by
  cases h with
  | established hplan hestablished =>
    obtain ⟨_, handle, -, hfind, hs⟩ := hestablished.admitted
    obtain ⟨-, hhandle, -⟩ := handle_of_find? hfind
    rw [hs, Catalog.resolve, Catalog.find?_register_of_ne (hhandle ▸ hpath _ hplan), Catalog.resolve]
  | halted hf _ => rw [hf]

/-! ## Two requests -/

section

variable {f' : Foundry} {w' : World} {A B : Request} {x y : Bool}

/-- **A request on another type** leaves a plan as it is. -/
theorem plan_after (h : f.Housed w) (hA : isIdentifier A.typeName = true)
    (hB : isIdentifier B.typeName = true) (hne : A.typeName ≠ B.typeName)
    (hreach : f.store.InReach w B.typeName)
    (hrefers : ∀ p, plan f w A = .ok p → ¬ B.RefersTo p.path)
    (hserve : A.serve (f, w) = (r, f', w')) (hconcludes : Concludes f w A d r (f', w')) :
    plan f' w' B = plan f w B := by
  have hstore : f'.store = f.store := serve_store hserve
  have hevolves : w.Evolves w' := serve_evolves hserve
  have hunit : f.store.unit? w' B.typeName = f.store.unit? w B.typeName := by
    have hview := congrArg (fun v => v.units B.typeName) (hconcludes.view_eq hA (h.apart _))
    simp only [Foundry.view, hstore] at hview
    rw [hview]
    cases hconcludes with
    | halted => rfl
    | established hplan _ =>
      exact Function.update_of_ne (name_of_plan hplan ▸ hne.symm) _ _
  refine plan_congr hstore (serve_fixed hserve).2 ?_ ?_ fun path hpath => ?_
  · exact Store.has_congr hB h.solid hevolves hreach hunit
  · exact Store.read_congr hB h.solid hevolves hunit
  · refine hconcludes.resolve_eq fun p hplan => ?_
    rintro rfl
    exact hrefers p hplan hpath

theorem decided_after (hserve : A.serve (f, w) = (r, f', w')) (hplan : plan f' w' B = plan f w B) :
    decided f' w' B y = decided f w B y := by
  have hcompiler : f'.compiler = f.compiler := (serve_fixed hserve).1
  have htoolchain : w'.toolchain = w.toolchain := (serve_leads hserve).toolchain
  rw [decided, decided, hplan, hcompiler, htoolchain]

theorem name_of_decided {p : Plan} (h : decided f w A x = .ok p) : p.name = A.typeName := by
  cases hplan : plan f w A with
  | error e =>
    rw [decided_of_declined hplan] at h
    cases h
  | ok p' =>
    rw [decided_of_planned hplan rfl] at h
    obtain rfl : p' = p := by
      cases hverdict : f.compiler.verdict w.toolchain p'.source x with
      | error e => rw [hverdict] at h; cases h
      | ok u => rw [hverdict] at h; exact Except.ok.inj h
    exact name_of_plan hplan

/-- **Two requests** on different types: each has the outcome that is decided for it where both start,
and what can be seen is changed by both plans. -/
theorem serve_two (h : f.Housed w) (hA : isIdentifier A.typeName = true)
    (hB : isIdentifier B.typeName = true) (hne : A.typeName ≠ B.typeName)
    (hreach : f.store.InReach w B.typeName)
    (hrefers : ∀ p, plan f w A = .ok p → ¬ B.RefersTo p.path) {a b : Except Halt Answer}
    {s₁ s₂ : Foundry × World} (hserveA : A.serve (f, w) = (a, s₁)) (hserveB : B.serve s₁ = (b, s₂))
    (hunhinderedA : Unhindered f w A) (hansweredA : Answered f w A x)
    (hunhinderedB : Unhindered s₁.1 s₁.2 B) (hansweredB : Answered s₁.1 s₁.2 B y) :
    outcome a = (decided f w A x).map (fun p => A.answer p.path (f.store.path p.name)) ∧
      outcome b = (decided f w B y).map (fun p => B.answer p.path (f.store.path p.name)) ∧
      s₂.1.view s₂.2 = ((f.view w).after (decided f w A x)).after (decided f w B y) := by
  obtain ⟨f₁, w₁⟩ := s₁
  have hfirst := serve_concludes hserveA hunhinderedA hansweredA
  have hsecond := serve_concludes hserveB hunhinderedB hansweredB
  have hplan := plan_after h hA hB hne hreach hrefers hserveA hfirst
  have h₁ : f₁.Housed w₁ := h.serve hserveA
  have hstore : f₁.store = f.store := serve_store hserveA
  have hview : f₁.view w₁ = (f.view w).after (decided f w A x) := hfirst.view_eq hA (h.apart _)
  rw [decided_after hserveA hplan] at hsecond
  refine ⟨hfirst.outcome_eq, ?_, ?_⟩
  · rw [hsecond.outcome_eq, hstore]
  · rw [hsecond.view_eq hB (h₁.apart _), hview]

end

theorem serve_continues (h : q.serve (f, w) = (r, s)) : f.Continues s.1 := by
  refine ⟨(serve_fixed h).2, serve_manifest h, fun hrequested => ?_⟩
  obtain hs | ⟨a, p, handle, -, -, horigin, hs⟩ := serve_foundry h
  · rwa [hs]
  · intro g hg
    rw [hs] at hg
    obtain hg | rfl := Catalog.mem_entries_register hg
    · exact hrequested g hg
    · exact horigin

/-- Nothing hinders a request that is declined, and no crate is handed over for it. -/
theorem unhindered_of_declined {h : Halt} (hplan : plan f w q = .error h)
    (hread : w.obstacles w.operations = none) (accepts : Bool) :
    Unhindered f w q ∧ Answered f w q accepts := by
  refine ⟨⟨hread, fun p file cause hp => ?_⟩, fun p i hp => ?_⟩
  · cases hplan.symm.trans hp
  · cases hplan.symm.trans hp

/-- What the request meets in the state and in the one after another request is alike: nothing hinders it,
and the toolchain accepts its crate in both or fails in both. -/
structure Alike (q : Request) (f : Foundry) (w : World) (s : Foundry × World) : Prop where
  first : Unhindered f w q
  second : Unhindered s.1 s.2 q
  answered : ∃ accepts, Answered f w q accepts ∧ Answered s.1 s.2 q accepts

end Request

/-- Foundries that continue the same one list the same types if the same can be seen of them. -/
theorem Foundry.listTypes_congr {f f₁ f₂ : Foundry} {w₁ w₂ : World} (h : f.catalog.Requested)
    (h₁ : f.Continues f₁) (h₂ : f.Continues f₂) (hview : f₁.view w₁ = f₂.view w₂) :
    f₁.listTypes = f₂.listTypes := by
  rw [listTypes, listTypes, h₁.modules, h₂.modules]
  refine Catalog.listAll_eq_of_names ?_ (h₁.requested h) (h₂.requested h) fun path => ?_
  · rw [h₁.manifest, h₂.manifest]
  · exact Set.ext_iff.1 (congrArg View.names hview) path

namespace Request

/-- **Requests on different types commute.** After any requests on a foundry that was opened over any
units, let two requests be about different types, each with a path that leads to its unit if there is one,
and let neither refer to the type of the other one. If nothing hinders them and the toolchain accepts the
crate of each in both orders or in neither, then each has the same outcome in both orders, and both orders
leave the same units and the same list of types. -/
theorem serve_comm {settings : Settings} {f₀ f : Foundry} {w₀ w₁ w : World} {qs : List Request}
    {rs : List (Except Halt Answer)} (hstart : (Foundry.start settings).run w₀ = (.ok f₀, w₁))
    (hrun : serveAll qs (f₀, w₁) = (rs, f, w)) (hsolid : w₀.disk.Solid w₀.cwd)
    (hfresh : ∀ k, Store.NotNamedFor ⟨settings.sourceDir⟩ w₀ (w₀.ids k)) {A B : Request}
    (hA : A.IsPlain) (hB : B.IsPlain) (hne : A.typeName ≠ B.typeName)
    (hreachA : f.store.InReach w A.typeName) (hreachB : f.store.InReach w B.typeName)
    (hrefersA : ∀ p, plan f w B = .ok p → ¬ A.RefersTo p.path)
    (hrefersB : ∀ p, plan f w A = .ok p → ¬ B.RefersTo p.path)
    {a a' b b' : Except Halt Answer} {sA sB sAB sBA : Foundry × World}
    (hserveA : A.serve (f, w) = (a, sA)) (hserveAB : B.serve sA = (b', sAB))
    (hserveB : B.serve (f, w) = (b, sB)) (hserveBA : A.serve sB = (a', sBA))
    (halikeA : A.Alike f w sB) (halikeB : B.Alike f w sA) :
    outcome a = outcome a' ∧ outcome b = outcome b' ∧
    (∀ name, sAB.1.store.unit? sAB.2 name = sBA.1.store.unit? sBA.2 name) ∧
    sAB.1.listTypes = sBA.1.listTypes := by
  obtain ⟨hhoused, hrequested⟩ : f.Housed w ∧ f.catalog.Requested := by
    refine serveAll_keeps (P := fun g v => g.Housed v ∧ g.catalog.Requested) ?_
      ⟨Foundry.Housed.start hstart hsolid hfresh, ?_⟩ hrun
    · exact fun h hserve => ⟨h.1.serve hserve, (serve_continues hserve).requested h.2⟩
    · intro g hg
      rw [Foundry.start_registry hstart] at hg
      cases hg
  obtain ⟨hA₁, hA₂, x, hx₁, hx₂⟩ := halikeA
  obtain ⟨hB₁, hB₂, y, hy₁, hy₂⟩ := halikeB
  have hnameA := hA.isIdentifier_typeName
  have hnameB := hB.isIdentifier_typeName
  obtain ⟨houtA, houtB', hviewAB⟩ := serve_two hhoused hnameA hnameB hne hreachB hrefersB
    hserveA hserveAB hA₁ hx₁ hB₂ hy₂
  obtain ⟨houtB, houtA', hviewBA⟩ := serve_two hhoused hnameB hnameA hne.symm hreachA hrefersA
    hserveB hserveBA hB₁ hy₁ hA₂ hx₂
  have hview : sAB.1.view sAB.2 = sBA.1.view sBA.2 := by
    rw [hviewAB, hviewBA]
    refine View.after_comm (fun p q hp hq => ?_) _
    rw [name_of_decided hp, name_of_decided hq]
    exact hne
  refine ⟨houtA.trans houtA'.symm, houtB.trans houtB'.symm, ?_, ?_⟩
  · exact fun name => congrFun (congrArg View.units hview) name
  · have hA : f.Continues sA.1 := serve_continues hserveA
    have hB : f.Continues sB.1 := serve_continues hserveB
    exact Foundry.listTypes_congr hrequested (hA.trans (serve_continues hserveAB))
      (hB.trans (serve_continues hserveBA)) hview

theorem layoutsOf_fresh : ∃ layouts t, Compiler.layoutsOf
      (.descriptor (freshDescriptor.toList.map fun c => .ofNat c.toNat)) = .ok layouts ∧
    t ∈ layouts ∧ t.path = ⟨["m"], "T"⟩ := by
  have hread : (Compiler.layoutsOf (.descriptor (freshDescriptor.toList.map fun c =>
      .ofNat c.toNat))).toOption.map (·.any fun t => t.path = ⟨["m"], "T"⟩) = some true := by
    decide +kernel
  obtain ⟨layouts, hlayouts, hany⟩ := Option.map_eq_some_iff.1 hread
  obtain ⟨t, ht, hpath⟩ := List.any_eq_true.1 hany
  exact ⟨layouts, t, toOption_eq_some.1 hlayouts, ht, of_decide_eq_true hpath⟩

/-- A type is made in an empty directory, and a field is asked for on a type that is missing. -/
theorem serve_comm_fresh : ∃ (b : Except Halt Answer) (sA sAB : Foundry × World),
    (create ⟨"T"⟩).serve (.fresh, .fresh) = (.ok (.created ⟨⟨["m"], "T"⟩, "units/T.rs"⟩), sA) ∧
    (extend "U" ⟨"size", .int, none⟩).serve sA = (b, sAB) ∧
    outcome b = .error (some "NotFound") ∧
    (∀ name, sAB.1.store.unit? sAB.2 name = sA.1.store.unit? sA.2 name) ∧
    sAB.1.listTypes = sA.1.listTypes := by
  obtain ⟨⟨fA, wA⟩, hA⟩ := Foundry.serve_fresh
  have hplainA : (create ⟨"T"⟩).IsPlain := Foundry.isPlain_fresh "T" (by simp)
  have hplainB : (extend "U" ⟨"size", .int, none⟩).IsPlain := by
    refine ⟨⟨?_, ?_⟩, ?_, ?_⟩ <;> decide +kernel
  have hidentifier : isIdentifier "U" = true := hplainB.isIdentifier_typeName
  -- there is no unit of the other type, neither before nor after
  have hnone : ∀ name ∈ ["T", "U"], Foundry.fresh.store.unit? .fresh name = none := by decide +kernel
  have hunit : Foundry.fresh.store.unit? wA "U" = none := by
    obtain ⟨name, source, hprepares, hestablished⟩ := serve_ok hA
    obtain rfl : "T" = name := hprepares.path_name
    rw [hestablished.unit?_eq hplainA.isIdentifier_typeName (Foundry.notNamedFor_fresh _)]
    exact hnone "U" (by simp)
  have hmissing : ¬ Foundry.fresh.store.Has .fresh "U" := by
    rw [Store.has_iff hidentifier, hnone "U" (by simp)]
    simp
  have hmissingA : ¬ fA.store.Has wA "U" := by
    rw [Store.has_iff hidentifier, show fA.store = _ from serve_store hA, hunit]
    simp
  have hreadA : wA.obstacles wA.operations = none := by
    rw [show wA.obstacles = World.fresh.obstacles from (serve_evolves hA).obstacles]
    rfl
  have hB := serve_extend_missing hplainB.1 hplainB.2 hmissing
  have hAB := serve_extend_missing hplainB.1 hplainB.2 hmissingA
  have hfirst := unhindered_of_declined (plan_extend_missing hplainB.1 hplainB.2 hmissing) rfl true
  have hsecond :=
    unhindered_of_declined (plan_extend_missing hplainB.1 hplainB.2 hmissingA) hreadA true
  have hunhindered : Unhindered .fresh .fresh (create ⟨"T"⟩) := by
    refine ⟨rfl, fun p file cause _ => ?_⟩
    rw [hA]
    simp
  have hanswered : Answered .fresh .fresh (create ⟨"T"⟩) true := by
    intro p i hplan _
    obtain ⟨layouts, t, hlayouts, ht, hpath⟩ := layoutsOf_fresh
    exact .accepted hlayouts ht (hpath.trans (path_of_planNew hplan).symm)
  have hreach : ∀ name ∈ ["T", "U"], isIdentifier name = true →
      Foundry.fresh.store.InReach .fresh name := by
    intro name hname hidentifier
    refine Store.inReach_of_down hidentifier solid_empty ?_ ?_ <;> revert name <;> decide +kernel
  have hnothing : serveAll [] (.fresh, .fresh) = ([], .fresh, .fresh) := rfl
  obtain ⟨-, houtcome, hunits, htypes⟩ := serve_comm Foundry.start_fresh hnothing solid_empty
    Foundry.notNamedFor_fresh hplainA hplainB (by decide)
    (hreach "T" (by simp) hplainA.isIdentifier_typeName) (hreach "U" (by simp) hidentifier)
    (fun _ _ => id) (fun _ _ h => nomatch h.1) hA hAB hB hA
    ⟨hunhindered, hunhindered, true, hanswered, hanswered⟩
    ⟨hfirst.1, hsecond.1, true, hfirst.2, hsecond.2⟩
  exact ⟨_, _, _, hA, hAB, houtcome.symm, hunits, htypes⟩

end Request

/-! ## A unit out of reach -/

/-- A world with a unit in a directory that the path of the store does not lead to yet. Its toolchain
accepts no crate. -/
def World.detour : World :=
  { World.fresh with
    disk := (Disk.empty.put ["b"] .directory).put ["b", "X.rs"]
      (.file (.text "struct X \x7b n: i32 \x7d"))
    toolchain := ⟨fun _ => none, fun _ _ => .failure []⟩ }

namespace Foundry

/-- The settings with a path to the store that goes through a directory and back. -/
def detourSettings : Settings := { freshSettings with sourceDir := "a/../b", buildDir := "a" }

/-- The foundry that is opened with these settings. -/
def detour : Foundry := ⟨⟨"a/../b"⟩, ⟨"rustc", "a", 0⟩, ["m"], .empty, .empty⟩

theorem start_detour : (start detourSettings).run .detour = (.ok detour, .detour) := by
  have hcheck : detourSettings.check = .ok () := by decide +kernel
  have hsegments : detourSettings.segments = .ok ["m"] := segments_fresh
  unfold start
  rw [hcheck, hsegments]
  rfl

theorem solid_detour : World.detour.disk.Solid [] := by
  have hdir : IsFileName "b" := ⟨by decide, by decide, by decide, by decide⟩
  have hunit : IsFileName "X.rs" := ⟨by decide, by decide, by decide, by decide⟩
  have hmade := (solid_empty.put (e := .directory) (List.nil_append ["b"]).symm rfl hdir (by decide)).1
  exact (hmade.put (show ["b", "X.rs"] = ["b"] ++ ["X.rs"] from rfl) rfl hunit (by decide)).1

/-- The directory of the crate is made, and with it the one that the path of the store goes through. -/
theorem ensureDirectory_detour :
    let w : World := { World.detour with drawn := 1 }
    let dir := join "a" (crateName "Y" (w.ids 0))
    Ends (Action.ensureDirectory dir) w
      (fun _ w' => ∃ d n, w' = { w with disk := d, operations := n } ∧ detour.store.Reaches w' "X" ∧
        ∀ text, ∃ d', d.write w.cwd (join dir "lib.rs") (.text text) = .ok d')
      fun _ _ => False := by
  intro w dir
  have hevaluated : ((Action.ensureDirectory dir).run w).1.toOption = some () ∧
      ((Action.ensureDirectory dir).run w).2.disk.locationOf w.cwd (detour.store.path "X") =
        .ok (place w.cwd (detour.store.path "X")) ∧
      (((Action.ensureDirectory dir).run w).2.disk.locationOf w.cwd (join dir "lib.rs")).toOption.map
        ((Action.ensureDirectory dir).run w).2.disk.entry? = some none := by
    decide +kernel +zetaReduce
  generalize hrun : (Action.ensureDirectory dir).run w = result at hevaluated
  obtain ⟨_ | _, w'⟩ := result
  · cases hevaluated.1
  obtain ⟨d, n, -, rfl⟩ := (Action.ensureDirectory_ends dir).of_ok hrun
  obtain ⟨-, hreaches, hfree⟩ := hevaluated
  constructor
  rw [hrun]
  refine ⟨d, n, rfl, hreaches, fun text => ?_⟩
  obtain ⟨loc, hloc, hentry⟩ := Option.map_eq_some_iff.1 hfree
  have hloc : d.locationOf w.cwd (join dir "lib.rs") = .ok loc := toOption_eq_some.1 hloc
  exact ⟨d.put loc (.file (.text text)), by simp only [write, hloc, bind, Except.bind, hentry]⟩

/-- A unit that can be read gets to the toolchain, which does not accept it. -/
theorem compile_detour {source : String} {unit : Source.SourceUnit}
    (hread : Source.SourceUnit.read source = .ok unit) :
    Ends (detour.compiler.compile .empty source ⟨["m"], "Y"⟩) .detour (fun _ _ => False)
      fun h w => (∀ file cause, h ≠ .failure (.io file cause)) ∧ detour.store.Reaches w "X" := by
  refine Ends.bind (Q := fun _ _ => False) ?_ (fun _ _ h => h.elim) fun _ _ h => h
  refine (Action.ofExcept_ends _).bind ?_ ?_
  · rintro targets _ ⟨-, rfl⟩
    refine Action.freshId_ends.bind ?_ (fun _ _ h => h.elim)
    rintro _ _ ⟨rfl, rfl⟩
    have hdirectory := ensureDirectory_detour
    have hsteady := Steady.ensureDirectory (join "a" (crateName "Y" (World.detour.ids 0)))
      { World.detour with drawn := 1 }
    refine (hdirectory.and hsteady).bind ?_ (fun _ _ h => h.1.elim)
    rintro _ _ ⟨⟨d, n, rfl, hreaches, hfree⟩, hevolves⟩
    have hsolid : d.Solid [] := (hevolves.disk solid_detour).1
    dsimp only
    split
    · refine (ends_throw (Q := fun _ _ => False) ⟨?_, hreaches⟩).bind (fun _ _ h => h.elim)
        (fun _ _ h => h)
      simp
    · obtain ⟨d', hwrite⟩ := hfree _
      refine ((Action.writeFile_free rfl hwrite).and (Steady.writeFile _ _ _)).bind ?_
        (fun _ _ h => h.1.elim)
      rintro _ _ ⟨rfl, hwritten⟩
      refine ((Compiler.invoke_answers _ _ _).and (Steady.invoke _ _ _ _)).bind ?_ ?_
      · rintro loaded _ ⟨⟨-, hreply, -⟩, -⟩
        cases hreply
      · rintro h w' ⟨hkind, hinvoked⟩
        have hio : ∀ file cause, h ≠ .failure (.io file cause) := by
          rintro file cause rfl
          simp [Halt.kind?, Failure.kind] at hkind
        exact ⟨hio, (hreaches.evolves hsolid hwritten).evolves (hwritten.disk hsolid).1 hinvoked⟩
  · rintro _ _ ⟨f, hf, -⟩
    rw [mapM_readTarget_of_read hread] at hf
    cases hf

/-- **A new type** is refused by the toolchain, but the path of the store leads to its units then. -/
theorem serve_detour :
    Ends (Request.create ⟨"Y"⟩).run (detour, .detour) (fun _ _ => False)
      fun h s => (∀ file cause, h ≠ .failure (.io file cause)) ∧ s.1 = detour ∧
        detour.store.Reaches s.2 "X" := by
  have hplain : TypeFoundry.IsPlain "Y" := by constructor <;> decide +kernel
  have hmodules : ∀ m ∈ detour.modules, isModuleName m = true := by decide +kernel
  have hmissing : World.detour.disk.isFile World.detour.cwd (detour.store.path "Y") = false := by
    decide +kernel
  have hplan := @Request.planNew_of_check detour .detour ⟨"Y"⟩ (Request.check_of_isPlain hplain)
  rw [newType_eq hplain.isItemName hmodules, hmissing] at hplan
  refine Request.create_planned _ (fun h hdeclined => ?_) fun p hplanned => ?_
  · cases hplan.symm.trans hdeclined
  · obtain rfl := Except.ok.inj (hplan.symm.trans hplanned)
    obtain ⟨schema, -, hread⟩ :=
      Schema.read_text (Schema.WellFormed.new hplain.isItemName hmodules)
    dsimp only
    refine foundry_ends.bind ?_ (fun _ _ h => h)
    rintro _ _ ⟨rfl, rfl⟩
    refine (ofAction_ends (compile_detour hread)).bind (fun _ _ ⟨_, _, h⟩ => h.elim) ?_
    rintro h _ ⟨w', rfl, hio, hreaches⟩
    exact ⟨hio, rfl, hreaches⟩

/-- The unit is in its place, and it has the field. -/
theorem plan_detour {w : World} (hreaches : detour.store.Reaches w "X")
    (hunit : detour.store.unit? w "X" = detour.store.unit? .detour "X") :
    Request.plan detour w (.extend "X" ⟨"n", .int, none⟩) =
      .error (.failure (.duplicateField "X" "n")) := by
  have hname : requireName "type name" "X" = .ok () := by decide +kernel
  have hcheck : FieldRequest.check ⟨"n", .int, none⟩ = .ok () := by decide +kernel
  have hidentifier : isIdentifier "X" = true := by decide +kernel
  have hcontent : detour.store.unit? .detour "X" = some (.text "struct X \x7b n: i32 \x7d") := by
    decide +kernel
  have hhas : detour.store.Has w "X" := by
    rw [Store.has_iff hidentifier, hunit, hcontent]
    exact ⟨hreaches, rfl⟩
  have htext : Request.storedText detour w "X" = .ok "struct X \x7b n: i32 \x7d" := by
    rw [Request.storedText, if_pos (show w.disk.isFile w.cwd _ = true from hhas), Disk.read,
      Store.content_eq_unit hreaches hidentifier (hunit.trans hcontent)]
    rfl
  have hpath : typePath "struct X \x7b n: i32 \x7d" "X" = .ok ⟨[], "X"⟩ := by decide +kernel
  have hadd : Synthesis.addField "struct X \x7b n: i32 \x7d" "X" ⟨"n", .int, none⟩
      detour.catalog.resolve = .error (.failure (.duplicateField "X" "n")) := by decide +kernel
  simp only [Request.plan, Request.planField, hname, hcheck, htext, hpath, hadd, Except.mapError,
    bind, Except.bind]

end Foundry

namespace Request

/-- **A unit out of reach** is found once another type is asked for. The path of the store goes through a
directory that is not there until the first crate is compiled. -/
theorem serve_not_comm :
    let A : Request := .extend "X" ⟨"n", .int, none⟩
    let B : Request := .create ⟨"Y"⟩
    (Foundry.start Foundry.detourSettings).run .detour = (.ok .detour, .detour) ∧
    World.detour.disk.Solid World.detour.cwd ∧
    (∀ k, Foundry.detour.store.NotNamedFor .detour (World.detour.ids k)) ∧
    A.IsPlain ∧ B.IsPlain ∧ A.typeName ≠ B.typeName ∧
    (∀ path, ¬ A.RefersTo path ∧ ¬ B.RefersTo path) ∧
    ∃ (a a' b b' : Except Halt Answer) (sA sB sAB sBA : Foundry × World),
      A.serve (.detour, .detour) = (a, sA) ∧ B.serve sA = (b', sAB) ∧
      B.serve (.detour, .detour) = (b, sB) ∧ A.serve sB = (a', sBA) ∧
      A.Alike .detour .detour sB ∧ B.Alike .detour .detour sA ∧
      outcome a = .error (some "NotFound") ∧ outcome a' = .error (some "DuplicateField") := by
  have hplain : ∀ name ∈ ["X", "Y", "n"], TypeFoundry.IsPlain name := by
    intro name hname
    refine ⟨?_, ?_⟩ <;> revert name <;> decide +kernel
  have hfresh : ∀ k, Foundry.detour.store.NotNamedFor .detour (World.detour.ids k) := by
    have hplace : place World.detour.cwd Foundry.detour.store.root = ["b"] := by decide +kernel
    refine fun k => Store.notNamedFor_of_length (fun dir hdir => ?_) _
    rw [hplace] at hdir
    obtain rfl := Option.some.inj hdir
    decide
  have hmissing : ¬ Foundry.detour.store.Has .detour "X" := by
    rw [Store.Has]
    decide +kernel
  intro A B
  have hA : A.serve (.detour, .detour) = (.error (.failure (.notFound "X")), .detour, .detour) :=
    serve_extend_missing (hplain "X" (by simp)) (hplain "n" (by simp)) hmissing
  have hplanA : plan .detour .detour A = .error (.failure (.notFound "X")) :=
    plan_extend_missing (hplain "X" (by simp)) (hplain "n" (by simp)) hmissing
  have hends := Foundry.serve_detour
  obtain ⟨⟨b | b, fB, wB⟩, hB⟩ : ∃ first, B.serve (.detour, .detour) = first := ⟨_, rfl⟩
  swap
  · exact (hends.of_ok hB).elim
  obtain ⟨hio, hf, hreaches⟩ := hends.of_error hB
  obtain rfl : fB = .detour := hf
  have hunit := (serve_error hB).2.units (hfresh _) "X"
  have hplanA' : plan .detour wB A = .error (.failure (.duplicateField "X" "n")) :=
    Foundry.plan_detour hreaches hunit
  -- no obstacle is in the way of any operation
  have hread : wB.obstacles wB.operations = none := by
    have hobstacles : wB.obstacles = World.detour.obstacles := (serve_evolves hB).obstacles
    rw [hobstacles]
    rfl
  have hfirst := unhindered_of_declined hplanA rfl true
  have hsecond := unhindered_of_declined hplanA' hread true
  have hunhindered : Unhindered .detour .detour B := by
    refine ⟨rfl, fun p file cause _ => ?_⟩
    rw [hB]
    simpa using hio file cause
  have hanswered : Answered .detour .detour B false := fun _ _ _ _ => .failed []
  obtain ⟨⟨a', sBA⟩, hA'⟩ : ∃ second, A.serve (.detour, wB) = second := ⟨_, rfl⟩
  have houtcome := (serve_concludes hA' hsecond.1 hsecond.2).outcome_eq
  rw [decided_of_declined hplanA'] at houtcome
  exact ⟨Foundry.start_detour, Foundry.solid_detour, hfresh,
    ⟨hplain "X" (by simp), hplain "n" (by simp)⟩, hplain "Y" (by simp), by decide,
    fun path => ⟨fun h => (nomatch h.1), id⟩, _, a', _, _, _, _, _, sBA, hA, hB, hB, hA',
    ⟨hfirst.1, hsecond.1, true, hfirst.2, hsecond.2⟩,
    ⟨hunhindered, hunhindered, false, hanswered, hanswered⟩, rfl, houtcome⟩

end Request

end TypeFoundry
