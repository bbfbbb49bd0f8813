import TypeFoundry.Proofs.Coherence
import TypeFoundry.Proofs.Collecting

/-!
# What a request leads to

Before anything is made, a request is looked at: it is declined, or it leads to the unit of a type, which
is then established. `Request.plan` says which, as a function of the names of the request, of the unit
that is stored for its type and of the type that a reference is to. Serving a request is to plan it and to
establish what was planned (`create_planned`, `extend_planned`), so what holds of both holds of the
request (`run_planned`).
-/

set_option autoImplicit false

namespace TypeFoundry

open Files Files.Disk Synthesis

/-- A unit that is to be established. -/
structure Plan where
  name : String
  source : String
  path : TypePath

namespace Request

variable {f : Foundry} {w : World}

/-- The text of the unit that is stored for the type. -/
def storedText (f : Foundry) (w : World) (name : String) : Except Halt String :=
  if w.disk.isFile w.cwd (f.store.path name) then
    (w.disk.read w.cwd (f.store.path name)).mapError fun cause =>
      .failure (if cause = .notFound then .notFound name else .io (f.store.path name) cause)
  else .error (.failure (.notFound name))

/-- What a request for a new type leads to. -/
def planNew (f : Foundry) (w : World) (r : TypeRequest) : Except Halt Plan := do
  r.check.mapError .failure
  if w.disk.isFile w.cwd (f.store.path r.name) then throw (.failure (.alreadyExists r.name))
  let source ← newType r.name f.modules
  return ⟨r.name, source, ⟨f.modules, r.name⟩⟩

theorem planNew_of_check {r : TypeRequest} (hcheck : r.check = .ok ()) :
    planNew f w r = if w.disk.isFile w.cwd (f.store.path r.name) then
        .error (.failure (.alreadyExists r.name))
      else (newType r.name f.modules).map fun source => ⟨r.name, source, ⟨f.modules, r.name⟩⟩ := by
  simp only [planNew, hcheck, Except.mapError, bind, Except.bind]
  split
  · rfl
  · cases newType r.name f.modules <;> rfl

/-- What a request for a field leads to. -/
def planField (f : Foundry) (w : World) (name : String) (r : FieldRequest) : Except Halt Plan := do
  (requireName "type name" name).mapError .failure
  r.check.mapError .failure
  let old ← storedText f w name
  let path ← (typePath old name).mapError .failure
  let source ← Synthesis.addField old name r f.catalog.resolve
  return ⟨name, source, path⟩

/-- What the request leads to, or how it is declined. -/
def plan (f : Foundry) (w : World) : Request → Except Halt Plan
  | create r => planNew f w r
  | extend name r => planField f w name r

section

variable {Q : Answer → Foundry × World → Prop} {E : Halt → Foundry × World → Prop}

/-- **A request for a new type** is planned, and what was planned is established. -/
theorem create_planned (r : TypeRequest) (hdeclined : ∀ h, planNew f w r = .error h → E h (f, w))
    (hestablish : ∀ p, planNew f w r = .ok p → Ends (Foundry.establish p.name p.source p.path) (f, w)
      (fun file s => Q (.created ⟨p.path, file⟩) s) E) :
    Ends (create r).run (f, w) Q E := by
  unfold planNew at hdeclined hestablish
  refine Ends.bind (Q := fun c s => Q (.created c) s) ?_ (fun _ _ h => ends_pure h) fun _ _ h => h
  refine foundry_ends.bind ?_ (fun _ _ h => h)
  rintro _ _ ⟨rfl, rfl⟩
  rename_i f
  refine (ofAction_ends (Action.ofExcept_ends _)).bind ?_ ?_
  · rintro _ _ ⟨_, rfl, hcheck, rfl⟩
    rename_i w
    simp only [hcheck, Except.mapError, bind, Except.bind] at hdeclined hestablish
    refine (ofAction_ends (Action.isFile_ends _)).bind ?_ ?_
    · rintro found _ ⟨_, rfl, rfl, rfl⟩
      rename_i w
      cases hstored : w.disk.isFile w.cwd (f.store.path r.name) with
      | true =>
        simp only [hstored, if_pos, throw, throwThe, MonadExceptOf.throw] at hdeclined
        exact ends_throw (hdeclined _ rfl)
      | false =>
        simp only [hstored, Bool.false_eq_true, if_false, pure, Except.pure] at hdeclined hestablish
        refine (ofAction_ends (Action.ofHalting_ends _)).bind ?_ ?_
        · rintro source _ ⟨_, rfl, hsource, rfl⟩
          simp only [hsource] at hestablish
          exact (hestablish _ rfl).bind (fun _ _ h => ends_pure h) fun _ _ h => h
        · rintro h _ ⟨_, rfl, hsource, rfl⟩
          exact hdeclined _ (by simp only [hsource])
    · rintro _ _ ⟨_, _, h⟩
      exact h.elim
  · rintro h _ ⟨_, rfl, e, he, rfl, rfl⟩
    exact hdeclined _ (by simp only [he, Except.mapError, bind, Except.bind])

/-- With no obstacle in the way, what is stored for the type is read. -/
theorem load_stored (name : String) (hread : w.obstacles w.operations = none)
    (hstored : w.disk.isFile w.cwd (f.store.path name) = true) :
    Ends (f.store.load name) w
      (fun text w' => storedText f w name = .ok text ∧ ∃ n, w' = { w with operations := n })
      fun h w' => storedText f w name = .error h ∧ ∃ n, w' = { w with operations := n } := by
  have hlook : Ends (Action.readFile (f.store.path name)) w
      (fun r w' => r = w.disk.read w.cwd (f.store.path name) ∧ ∃ n, w' = { w with operations := n })
      fun _ _ => False := by
    refine (look_answers _).mono ?_ fun _ _ h => h
    rintro r w' ⟨rfl, hw'⟩
    exact ⟨World.answer_free (by rw [World.met?, hread]; rfl) _, hw'⟩
  refine hlook.bind ?_ (fun _ _ h => h.elim)
  rintro r _ ⟨rfl, n, rfl⟩
  rw [storedText, if_pos hstored]
  cases w.disk.read w.cwd (f.store.path name) with
  | ok text => exact ends_pure ⟨rfl, n, rfl⟩
  | error cause =>
    dsimp only [Except.mapError]
    split
    · exact ends_throw ⟨rfl, n, rfl⟩
    · exact ends_throw ⟨rfl, n, rfl⟩

/-- **A request for a field** is planned, if no obstacle is in the way, and what was planned is
established. -/
theorem extend_planned (name : String) (r : FieldRequest) (hread : w.obstacles w.operations = none)
    (hdeclined : ∀ h n, planField f w name r = .error h → E h (f, { w with operations := n }))
    (hestablish : ∀ p n, planField f w name r = .ok p →
      Ends (Foundry.establish p.name p.source p.path) (f, { w with operations := n })
        (fun file s => Q (.extended ⟨p.path, r.name, file⟩) s) E) :
    Ends (extend name r).run (f, w) Q E := by
  unfold planField at hdeclined hestablish
  refine Ends.bind (Q := fun a s => Q (.extended a) s) ?_ (fun _ _ h => ends_pure h) fun _ _ h => h
  refine foundry_ends.bind ?_ (fun _ _ h => h)
  rintro _ _ ⟨rfl, rfl⟩
  rename_i f
  refine (ofAction_ends (Action.ofExcept_ends _)).bind ?_ ?_
  · rintro _ _ ⟨_, rfl, hname, rfl⟩
    rename_i w
    simp only [hname, Except.mapError, bind, Except.bind] at hdeclined hestablish
    refine (ofAction_ends (Action.ofExcept_ends _)).bind ?_ ?_
    · rintro _ _ ⟨_, rfl, hcheck, rfl⟩
      rename_i w
      simp only [hcheck] at hdeclined hestablish
      refine (ofAction_ends (Action.isFile_ends _)).bind ?_ ?_
      · rintro found _ ⟨_, rfl, rfl, rfl⟩
        rename_i w
        split
        · rename_i hstored
          refine (ofAction_ends (load_stored name hread hstored)).bind ?_ ?_
          · rintro old _ ⟨_, rfl, hold, n, rfl⟩
            simp only [hold] at hdeclined hestablish
            refine (ofAction_ends (Action.ofExcept_ends _)).bind ?_ ?_
            · rintro path _ ⟨_, rfl, hpath, rfl⟩
              simp only [hpath] at hdeclined hestablish
              refine (ofAction_ends (Action.ofHalting_ends _)).bind ?_ ?_
              · rintro source _ ⟨_, rfl, hsource, rfl⟩
                simp only [hsource, pure, Except.pure] at hestablish
                exact (hestablish _ n rfl).bind (fun _ _ h => ends_pure h) fun _ _ h => h
              · rintro h _ ⟨_, rfl, hsource, rfl⟩
                exact hdeclined _ n (by simp only [hsource])
            · rintro h _ ⟨_, rfl, e, hpath, rfl, rfl⟩
              exact hdeclined _ n (by simp only [hpath])
          · rintro h _ ⟨_, rfl, hold, n, rfl⟩
            exact hdeclined _ n (by simp only [hold])
        · rename_i hstored
          exact ends_throw (hdeclined _ w.operations (by simp only [storedText, if_neg hstored]))
      · rintro _ _ ⟨_, _, h⟩
        exact h.elim
    · rintro h _ ⟨_, rfl, e, he, rfl, rfl⟩
      rename_i w
      exact hdeclined _ w.operations (by simp only [he])
  · rintro h _ ⟨_, rfl, e, he, rfl, rfl⟩
    rename_i w
    exact hdeclined _ w.operations (by simp only [he, Except.mapError, bind, Except.bind])

/-- **Serving a request** is to plan it and to establish what was planned. Only operations on the disk
may have been counted in between. -/
theorem run_planned (q : Request) (hread : w.obstacles w.operations = none)
    (hdeclined : ∀ h n, plan f w q = .error h → E h (f, { w with operations := n }))
    (hestablish : ∀ p n, plan f w q = .ok p →
      Ends (Foundry.establish p.name p.source p.path) (f, { w with operations := n })
        (fun file s => Q (q.answer p.path file) s) E) : Ends q.run (f, w) Q E := by
  cases q with
  | create r =>
    exact create_planned r (fun h hp => hdeclined h w.operations hp) fun p hp =>
      hestablish p w.operations hp
  | extend name r => exact extend_planned name r hread hdeclined hestablish

end

/-- **What every request keeps** is kept by a run of requests. -/
theorem serveAll_keeps {P : Foundry → World → Prop}
    (hserve : ∀ {f w q r s}, P f w → serve q (f, w) = (r, s) → P s.1 s.2) {qs : List Request}
    {rs : List (Except Halt Answer)} {s : Foundry × World} (h : P f w)
    (hrun : serveAll qs (f, w) = (rs, s)) : P s.1 s.2 := by
  induction qs generalizing f w rs with
  | nil =>
    obtain ⟨-, rfl⟩ := Prod.mk.inj hrun
    exact h
  | cons q qs ih =>
    rw [serveAll] at hrun
    generalize hfirst : q.serve (f, w) = first at hrun
    obtain ⟨r, f₁, w₁⟩ := first
    dsimp only at hrun
    generalize hrest : serveAll qs (f₁, w₁) = rest at hrun
    obtain ⟨rs', s'⟩ := rest
    obtain ⟨-, rfl⟩ := Prod.mk.inj hrun
    have hnext : P f₁ w₁ := hserve h hfirst
    exact ih hnext hrest

end Request

end TypeFoundry
