import TypeFoundry.Proofs.Establishing

/-!
# How requests are served

A request is either declined, which leaves everything as it was, or it prepares the unit of a type,
which is then established. `run_ends` says how this ends; a request that fails has changed neither
the foundry nor a unit (`serve_error_keeps`).
-/

set_option autoImplicit false

namespace TypeFoundry

open Files Files.Disk Synthesis

/-- What a client asks of a foundry. -/
inductive Request where
  | create (r : TypeRequest)
  | extend (typeName : String) (r : FieldRequest)
  deriving DecidableEq

/-- What a foundry answers. -/
inductive Answer where
  | created (c : CreatedType)
  | extended (a : AddedField)
  deriving DecidableEq

/-- The full name of the type that the answer is about. -/
def Answer.path : Answer → TypePath
  | created c => c.path
  | extended a => a.path

namespace Request

/-- The step that serves the request. -/
def run : Request → Step Answer
  | create r => do return .created (← Foundry.createType r)
  | extend typeName r => do return .extended (← Foundry.addField typeName r)

/-- What comes of the request, with the foundry and the world after it. -/
def serve (q : Request) (s : Foundry × World) : Except Halt Answer × Foundry × World := q.run.run s

/-- The answer to the request when the type is established. -/
def answer (path : TypePath) (file : String) : Request → Answer
  | create _ => .created ⟨path, file⟩
  | extend _ r => .extended ⟨path, r.name, file⟩

/-- The request leads to the unit of the type, which is to be established. -/
inductive Prepares (f : Foundry) (w : World) : Request → String → String → TypePath → Prop where
  | create {r : TypeRequest} {source : String} :
    r.check = .ok () → newType r.name f.modules = .ok source →
    Prepares f w (create r) r.name source ⟨f.modules, r.name⟩
  | extend {name old source : String} {r : FieldRequest} {path : TypePath} :
    requireName "type name" name = .ok () → r.check = .ok () →
    w.disk.read w.cwd (f.store.path name) = .ok old → typePath old name = .ok path →
    Synthesis.addField old name r f.catalog.resolve = .ok source →
    Prepares f w (extend name r) name source path

/-- The request is declined with the halt, before anything was done. -/
inductive Declines (f : Foundry) (w : World) : Request → Halt → Prop where
  | schema (q : Request) (fault : SchemaFault) : Declines f w q (.failure (.schema fault))
  | alreadyExists (r : TypeRequest) :
    Declines f w (create r) (.failure (.alreadyExists r.name))
  | unnamed {r : TypeRequest} {h : Halt} :
    newType r.name f.modules = .error h → Declines f w (create r) h
  | notFound (name : String) (r : FieldRequest) :
    Declines f w (extend name r) (.failure (.notFound name))
  | unread (name : String) (r : FieldRequest) (file : String) (cause : Cause) :
    Declines f w (extend name r) (.failure (.io file cause))
  | unlocated {name old : String} (r : FieldRequest) {e : Failure} :
    w.disk.read w.cwd (f.store.path name) = .ok old → typePath old name = .error e →
    Declines f w (extend name r) (.failure e)
  | refused {name old : String} {r : FieldRequest} {h : Halt} :
    w.disk.read w.cwd (f.store.path name) = .ok old →
    Synthesis.addField old name r f.catalog.resolve = .error h → Declines f w (extend name r) h

theorem requireName_error {what name : String} {f : Failure} (h : requireName what name = .error f) :
    ∃ fault, f = .schema fault := by
  unfold requireName at h
  split at h
  · cases h
  · exact ⟨_, (Except.error.inj h).symm⟩

theorem checkName_of_requireName {what name : String} (h : requireName what name = .ok ()) :
    checkName name = .ok () := by
  unfold requireName at h
  split at h
  · assumption
  · cases h

theorem load_ends (s : Store) (name : String) {w : World} :
    Ends (s.load name) w
      (fun source w' => w.disk.read w.cwd (s.path name) = .ok source ∧
        ∃ n, w' = { w with operations := n })
      fun h w' => (h = .failure (.notFound name) ∨ ∃ cause, h = .failure (.io (s.path name) cause)) ∧
        ∃ n, w' = { w with operations := n } := by
  refine (Action.look_ends _).bind ?_ (fun _ _ h => h.elim)
  rintro r _ ⟨hr, n, rfl⟩
  cases r with
  | ok source => exact ends_pure ⟨hr source rfl, n, rfl⟩
  | error cause =>
    dsimp only
    split
    · exact ends_throw ⟨.inl rfl, n, rfl⟩
    · exact ends_throw ⟨.inr ⟨cause, rfl⟩, n, rfl⟩

/-- How serving the request can halt: it is declined and only operations on the disk were counted,
or its type cannot be established. -/
def ServeHalt (f : Foundry) (w : World) (q : Request) (h : Halt) (w' : World) : Prop :=
  (Declines f w q h ∧ ∃ n, w' = { w with operations := n }) ∨
    ∃ name source path, Prepares f w q name source path ∧
      EstablishHalt f source path w.nextReply h ∧ w.Leads w' ∧
      SameFiles (fun loc => OutsideCrate (w.ids w.drawn) loc ∧ ¬ Staged loc) w.disk w'.disk

section

variable {f : Foundry} {w : World} {Q : Answer → Foundry × World → Prop}
  {E : Halt → Foundry × World → Prop}

theorem create_prepared (r : TypeRequest)
    (hdeclined : ∀ h n, Declines f w (create r) h → E h (f, { w with operations := n }))
    (hestablish : ∀ name source path n, Prepares f w (create r) name source path →
      Ends (Foundry.establish name source path) (f, { w with operations := n })
        (fun file s => Q (.created ⟨path, file⟩) s) E) : Ends (create r).run (f, w) Q E := by
  refine Ends.bind (Q := fun c s => Q (.created c) s) ?_ (fun _ _ h => ends_pure h) fun _ _ h => h
  refine foundry_ends.bind ?_ (fun _ _ h => h)
  rintro _ _ ⟨rfl, rfl⟩
  rename_i f
  refine (ofAction_ends (Action.ofExcept_ends _)).bind ?_ ?_
  · rintro _ _ ⟨_, rfl, hcheck, rfl⟩
    rename_i w
    refine (ofAction_ends (Action.isFile_ends _)).bind ?_ ?_
    · rintro found _ ⟨_, rfl, -, rfl⟩
      rename_i w
      dsimp only
      split
      · exact ends_throw (hdeclined _ w.operations (.alreadyExists r))
      · refine (ofAction_ends (Action.ofHalting_ends _)).bind ?_ ?_
        · rintro source _ ⟨_, rfl, hsource, rfl⟩
          rename_i w
          exact (hestablish _ _ _ w.operations (.create hcheck hsource)).bind
            (fun _ _ h => ends_pure h) fun _ _ h => h
        · rintro h _ ⟨_, rfl, hsource, rfl⟩
          rename_i w
          exact hdeclined h w.operations (.unnamed hsource)
    · rintro _ _ ⟨_, _, h⟩
      exact h.elim
  · rintro h _ ⟨_, rfl, e, he, rfl, rfl⟩
    rename_i w
    obtain ⟨fault, rfl⟩ := requireName_error he
    exact hdeclined _ w.operations (.schema _ fault)

theorem extend_prepared (name : String) (r : FieldRequest)
    (hdeclined : ∀ h n, Declines f w (extend name r) h → E h (f, { w with operations := n }))
    (hestablish : ∀ name' source path n, Prepares f w (extend name r) name' source path →
      Ends (Foundry.establish name' source path) (f, { w with operations := n })
        (fun file s => Q (.extended ⟨path, r.name, file⟩) s) E) :
    Ends (extend name r).run (f, w) Q E := by
  refine Ends.bind (Q := fun a s => Q (.extended a) s) ?_ (fun _ _ h => ends_pure h) fun _ _ h => h
  refine foundry_ends.bind ?_ (fun _ _ h => h)
  rintro _ _ ⟨rfl, rfl⟩
  rename_i f
  refine (ofAction_ends (Action.ofExcept_ends _)).bind ?_ ?_
  · rintro _ _ ⟨_, rfl, hname, rfl⟩
    rename_i w
    refine (ofAction_ends (Action.ofExcept_ends _)).bind ?_ ?_
    · rintro _ _ ⟨_, rfl, hcheck, rfl⟩
      rename_i w
      refine (ofAction_ends (Action.isFile_ends _)).bind ?_ ?_
      · rintro found _ ⟨_, rfl, -, rfl⟩
        rename_i w
        split
        · refine (ofAction_ends (load_ends _ _)).bind ?_ ?_
          · rintro old _ ⟨_, rfl, hold, n, rfl⟩
            refine (ofAction_ends (Action.ofExcept_ends _)).bind ?_ ?_
            · rintro path _ ⟨_, rfl, hpath, rfl⟩
              refine (ofAction_ends (Action.ofHalting_ends _)).bind ?_ ?_
              · rintro source _ ⟨_, rfl, hsource, rfl⟩
                exact (hestablish _ _ _ n (.extend hname hcheck hold hpath hsource)).bind
                  (fun _ _ h => ends_pure h) fun _ _ h => h
              · rintro h _ ⟨_, rfl, hsource, rfl⟩
                exact hdeclined h n (.refused hold hsource)
            · rintro h _ ⟨_, rfl, e, hpath, rfl, rfl⟩
              exact hdeclined _ n (.unlocated r hold hpath)
          · rintro h _ ⟨_, rfl, rfl | ⟨cause, rfl⟩, n, rfl⟩
            · exact hdeclined _ n (.notFound name r)
            · exact hdeclined _ n (.unread name r _ cause)
        · exact ends_throw (hdeclined _ w.operations (.notFound name r))
      · rintro _ _ ⟨_, _, h⟩
        exact h.elim
    · rintro h _ ⟨_, rfl, e, he, rfl, rfl⟩
      rename_i w
      obtain ⟨fault, rfl⟩ := requireName_error he
      exact hdeclined _ w.operations (.schema _ fault)
  · rintro h _ ⟨_, rfl, e, he, rfl, rfl⟩
    rename_i w
    obtain ⟨fault, rfl⟩ := requireName_error he
    exact hdeclined _ w.operations (.schema _ fault)

/-- **A request** is declined, or it prepares the unit of a type, which is established. Only operations
on the disk were counted before. -/
theorem run_prepared (q : Request)
    (hdeclined : ∀ h n, Declines f w q h → E h (f, { w with operations := n }))
    (hestablish : ∀ name source path n, Prepares f w q name source path →
      Ends (Foundry.establish name source path) (f, { w with operations := n })
        (fun file s => Q (q.answer path file) s) E) : Ends q.run (f, w) Q E := by
  cases q with
  | create r => exact create_prepared r hdeclined hestablish
  | extend name r => exact extend_prepared name r hdeclined hestablish

end

@[simp] theorem path_answer (q : Request) (path : TypePath) (file : String) :
    (q.answer path file).path = path := by
  cases q <;> rfl

/-- **Serving a request** prepares and establishes a type, or it halts. -/
theorem run_ends (q : Request) {f : Foundry} {w : World} :
    Ends q.run (f, w)
      (fun a s => ∃ name source, Prepares f w q name source a.path ∧
        Established f w name source a.path s.1 s.2)
      fun h s => ∃ w', s = (f, w') ∧ ServeHalt f w q h w' := by
  refine run_prepared q (fun h n hdeclines => ⟨_, rfl, .inl ⟨hdeclines, n, rfl⟩⟩) ?_
  intro name source path n hprepares
  refine (establish_ends name source path).mono ?_ ?_
  · rintro file s ⟨-, hs⟩
    rw [path_answer]
    exact ⟨name, source, hprepares, hs.leads.of_operations, hs.drawn, hs.stored, hs.others, hs.admitted⟩
  · rintro h _ ⟨w', rfl, hh, hw, hd⟩
    exact ⟨w', rfl, .inr ⟨_, _, _, hprepares, hh, hw.of_operations, hd⟩⟩

/-- A new type whose unit is established is the answer. -/
theorem serve_create {f : Foundry} {w : World} {r : TypeRequest} {text file : String}
    {s : Foundry × World} (hcheck : r.check = .ok ())
    (hmissing : w.disk.isFile w.cwd (f.store.path r.name) = false)
    (hnew : newType r.name f.modules = .ok text)
    (hestablish : (Foundry.establish r.name text ⟨f.modules, r.name⟩).run (f, w) = (.ok file, s)) :
    (create r).serve (f, w) = (.ok (.created ⟨⟨f.modules, r.name⟩, file⟩), s) := by
  have hact : ∀ {α : Type} (a : Action α), (Step.ofAction a).run (f, w) = ((a.run w).1, f, (a.run w).2) :=
    fun _ => rfl
  have hexists : (f.store.exists? r.name).run w = (.ok false, w) := by
    rw [← hmissing]
    rfl
  have hcreate : (Foundry.createType r).run (f, w) = (.ok ⟨⟨f.modules, r.name⟩, file⟩, s) := by
    unfold Foundry.createType
    rw [bind_run, show Step.foundry.run (f, w) = (.ok f, f, w) from rfl]
    dsimp only
    rw [hcheck, bind_run, hact, show (Action.ofExcept (.ok ())).run w = (.ok (), w) from rfl]
    dsimp only
    rw [bind_run, hact, hexists]
    dsimp only
    rw [if_neg Bool.false_ne_true, bind_run, hact, hnew,
      show (Action.ofHalting (.ok text)).run w = (.ok text, w) from rfl]
    dsimp only
    rw [bind_run, hestablish]
    rfl
  rw [serve, run, bind_run, hcreate]
  rfl

theorem serve_ok {q : Request} {f : Foundry} {w : World} {a : Answer} {s : Foundry × World}
    (h : q.serve (f, w) = (.ok a, s)) :
    ∃ name source, Prepares f w q name source a.path ∧
      Established f w name source a.path s.1 s.2 :=
  (run_ends q).of_ok h

theorem serve_error {q : Request} {f : Foundry} {w : World} {e : Halt} {s : Foundry × World}
    (h : q.serve (f, w) = (.error e, s)) : s.1 = f ∧ ServeHalt f w q e s.2 := by
  obtain ⟨w', rfl, hw'⟩ := (run_ends q).of_error h
  exact ⟨rfl, hw'⟩

/-- **A request that succeeds** changes the foundry in that a module joins the arena and the type of the
answer is registered, and one that fails does not change it. -/
theorem serve_foundry {q : Request} {f : Foundry} {w : World} {r : Except Halt Answer}
    {s : Foundry × World} (h : q.serve (f, w) = (r, s)) :
    s.1 = f ∨ ∃ a p handle, r = .ok a ∧ handle.path = a.path ∧ handle.module.origin = .dynamic ∧
      s.1 = { f with arena := f.arena.push p, catalog := (f.catalog.register handle).2 } := by
  cases r with
  | error e => exact .inl (serve_error h).1
  | ok a =>
    obtain ⟨name, source, -, hestablished⟩ := serve_ok h
    obtain ⟨p, handle, hp, hfind, hs⟩ := hestablished.admitted
    obtain ⟨-, hpath, hmodule, -⟩ := handle_of_find? hfind
    exact .inr ⟨a, p, handle, rfl, hpath, hmodule ▸ hp.origin_eq, hs⟩

theorem ServeHalt.leads {f : Foundry} {w w' : World} {q : Request} {h : Halt}
    (hhalt : ServeHalt f w q h w') : w.Leads w' := by
  obtain ⟨-, n, rfl⟩ | ⟨name, source, path, -, -, hw, -⟩ := hhalt
  · exact ⟨rfl, rfl, rfl, Nat.le_refl _⟩
  · exact hw

theorem serve_leads {q : Request} {f : Foundry} {w : World} {r : Except Halt Answer}
    {s : Foundry × World} (h : q.serve (f, w) = (r, s)) : w.Leads s.2 := by
  cases r with
  | error e => exact (serve_error h).2.leads
  | ok a =>
    obtain ⟨name, source, -, hestablished⟩ := serve_ok h
    exact hestablished.leads

/-- A request that halts leaves all units. -/
theorem ServeHalt.units {f : Foundry} {w w' : World} {q : Request} {h : Halt}
    (hhalt : ServeHalt f w q h w') (hfresh : f.store.NotNamedFor w (w.ids w.drawn)) :
    ∀ name, f.store.unit? w' name = f.store.unit? w name := by
  intro unit
  obtain ⟨-, n, rfl⟩ | ⟨name, source, path, -, -, hw, hd⟩ := hhalt
  · rfl
  · rw [Store.unit?, Store.unit?, hw.cwd]
    exact hd _ ⟨hfresh.outsideCrate unit, not_staged_unit _ unit⟩

/-- The categories of the failures with which requests are declined. -/
def declinedKinds : List String :=
  ["ValidationError", "NotFound", "AlreadyExists", "DuplicateField", "InvalidReference",
    "UnknownReferenceType", "MalformedSource"]

/-- A type that cannot be established fails for other reasons than those that requests are declined
for. -/
theorem kind_not_declined {f : Foundry} {source : String} {path : TypePath}
    {reply : Invocation → Reply} {e : Failure} (h : EstablishHalt f source path reply (.failure e)) :
    e.kind ∉ declinedKinds := by
  obtain (hbuild | ⟨id, p, -, -, he⟩) | ⟨file, cause, he⟩ := h
  · cases hbuild <;> simp [Failure.kind, declinedKinds]
  · obtain rfl := Halt.failure.inj he
    simp [Failure.kind, declinedKinds]
  · obtain rfl := Halt.failure.inj he
    simp [Failure.kind, declinedKinds]

/-- **A request that fails has changed nothing**: neither the foundry, its modules, its registry and
its manifest, nor any unit. If it was declined, it changed nothing on the disk and no crate was
handed to the toolchain. The directory of units may not be named for the identity that is drawn
next: that directory is the crate's. -/
theorem serve_error_keeps {q : Request} {f : Foundry} {w : World} {e : Halt} {s : Foundry × World}
    (hfresh : f.store.NotNamedFor w (w.ids w.drawn)) (h : q.serve (f, w) = (.error e, s)) :
    s.1 = f ∧ (∀ name, f.store.unit? s.2 name = f.store.unit? w name) ∧
      ∀ failure, e = .failure failure → failure.kind ∈ declinedKinds →
        s.2.disk = w.disk ∧ s.2.invocations = w.invocations := by
  obtain ⟨hf, hhalt⟩ := serve_error h
  refine ⟨hf, hhalt.units hfresh, ?_⟩
  rintro failure rfl hkind
  obtain ⟨-, n, hw⟩ | ⟨name, source, path, -, hestablish, -⟩ := hhalt
  · rw [hw]
    exact ⟨rfl, rfl⟩
  · exact absurd hkind (kind_not_declined hestablish)

/-- The disk is full when the text of the crate is to be written. -/
theorem serve_error_keeps_role :
    let f : Foundry := ⟨⟨"units"⟩, ⟨"rustc", "build", 0⟩, [], .empty, .empty⟩
    let w : World := {
      disk := ⟨[(["units"], .directory),
        (["units", "Role.rs"], .file (.text "struct Role \x7b\x7d"))]⟩
      cwd := []
      obstacles := fun n => if n = 4 then some ⟨.system 28, none⟩ else none
      operations := 0
      toolchain := ⟨fun _ => none, fun _ _ => .failure []⟩
      invocations := []
      ids := fun n => ⟨.ofNat 128 n⟩
      drawn := 0 }
    let s := ((extend "Role" ⟨"size", .int, none⟩).serve (f, w)).2
    s.1 = f ∧ f.store.unit? s.2 "Role" = some (.text "struct Role \x7b\x7d") := by
  intro f w s
  have hrun : ((extend "Role" ⟨"size", .int, none⟩).serve (f, w)).1 =
      .error (.failure (.io (join "build/forge_role_00000000000000000000000000000000" "lib.rs")
        (.system 28))) := by
    decide +kernel +zetaReduce
  have hfresh : f.store.NotNamedFor w (w.ids w.drawn) := by
    have hplace : place w.cwd f.store.root = ["units"] := by decide +kernel +zetaReduce
    intro dir hdir
    rw [hplace] at hdir
    obtain rfl : "units" = dir := Option.some.inj hdir
    decide +kernel +zetaReduce
  obtain ⟨hf, hunits, -⟩ := serve_error_keeps hfresh (Prod.ext hrun rfl)
  have hunit : f.store.unit? w "Role" = some (.text "struct Role \x7b\x7d") := by
    decide +kernel +zetaReduce
  exact ⟨hf, (hunits "Role").trans hunit⟩
end Request

end TypeFoundry
