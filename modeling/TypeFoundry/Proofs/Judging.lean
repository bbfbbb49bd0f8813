import TypeFoundry.Proofs.Handing
import TypeFoundry.Proofs.Planning
import TypeFoundry.Proofs.Reaching
import TypeFoundry.Proofs.Usable

/-!
# How a plan is judged

What was planned is established unless the disk, the unit or the toolchain is in the way. Apart from the
disk, `Compiler.verdict` says which: it looks at the text of the unit and at whether the toolchain accepts
its crate. The other units of the crate do not matter, as all that can be unfinished in a crate is what its
targets give to it (`areFinished_crateOf`). So what a request comes to and what it leaves behind are known
from its plan and from the answer of the toolchain (`Request.serve_concludes`).
-/

set_option autoImplicit false

namespace TypeFoundry

open Source Crate Files

/-! ## Finished crates -/

namespace Source

mutual

theorem Item.isFinished_iff (i : Item) :
    i.isFinished = true ↔ ∀ path, ∀ j ∈ leavesAt path [i], j.isFinished = true := by
  cases i with
  | module head items =>
    rw [Item.isFinished, areFinished_iff]
    constructor
    · intro h path j hj
      rw [leavesAt_module] at hj
      cases path with
      | nil => cases hj
      | cons name path =>
        simp only at hj
        split at hj
        · exact h path j hj
        · cases hj
    · intro h path j hj
      exact h (head.name :: path) j (by simpa [leavesAt_module] using hj)
  | use u => simp [Item.isFinished, mem_leavesAt_leaf (show (Item.use u).isLeaf = true from rfl)]
  | struct s => simp [Item.isFinished, mem_leavesAt_leaf (show (Item.struct s).isLeaf = true from rfl)]
  | enum e => simp [Item.isFinished, mem_leavesAt_leaf (show (Item.enum e).isLeaf = true from rfl)]
  | other d => simp [mem_leavesAt_leaf (show (Item.other d).isLeaf = true from rfl)]

/-- Items are finished just if all leaves in them are. -/
theorem areFinished_iff (items : List Item) :
    areFinished items = true ↔ ∀ path, ∀ j ∈ leavesAt path items, j.isFinished = true := by
  cases items with
  | nil => simp [areFinished, leavesAt_nil]
  | cons i is =>
    rw [areFinished, Bool.and_eq_true, Item.isFinished_iff, areFinished_iff]
    simp only [leavesAt_cons _ i is, List.mem_append, or_imp, forall_and]

end

/-- Types and imports are always finished. -/
theorem isFinished_of_key? {i : Item} (h : i.key? ≠ none) : i.isFinished = true := by
  cases i <;> simp_all [Item.key?, Item.isFinished]

end Source

/-- **A crate is finished** just if its targets are: references give it types and imports only. -/
theorem areFinished_crateOf (targets references : List SourceUnit) :
    areFinished (Compiler.crateOf targets references).items = true ↔
      ∀ u ∈ targets, areFinished u.items = true := by
  rw [areFinished_iff]
  constructor
  · intro h u hu
    rw [areFinished_iff]
    intro path i hi
    by_cases hkey : i.key? = none
    · have hmerged : i ∈ leavesAt path (merge targets references).items :=
        (mem_merge_of_key?_eq_none hkey).2 (List.mem_flatMap.2 ⟨u, hu, hi⟩)
      refine h path i ?_
      rw [leavesAt_crateOf]
      exact List.mem_append_left _ (List.mem_append_left _ hmerged)
    · exact isFinished_of_key? hkey
  · intro h path i hi
    rw [leavesAt_crateOf] at hi
    obtain hi | hi := List.mem_append.1 hi
    · obtain hi | hi := List.mem_append.1 hi
      · by_cases hkey : i.key? = none
        · obtain ⟨u, hu, hi⟩ := List.mem_flatMap.1 ((mem_merge_of_key?_eq_none hkey).1 hi)
          exact (areFinished_iff _).1 (h u hu) path i hi
        · exact isFinished_of_key? hkey
      · split at hi
        · obtain rfl := List.mem_singleton.1 hi
          rfl
        · cases hi
    · split at hi
      · obtain rfl := List.mem_singleton.1 hi
        rfl
      · cases hi

/-! ## Verdicts -/

/-- The category of the halt, if it is a failure. -/
def Halt.kind? : Halt → Option String
  | .failure f => some f.kind
  | .aborted => none

/-- The reply to the crate of the type: it is accepted and the module describes the type, or it fails. -/
inductive Reply.Answers (path : TypePath) : Bool → Reply → Prop where
  | accepted {loaded : Loaded} {layouts : List TypeLayout} {t : TypeLayout} :
    Compiler.layoutsOf loaded = .ok layouts → t ∈ layouts → t.path = path →
    Answers path true (.success loaded)
  | failed (stderr : List UInt8) : Answers path false (.failure stderr)

namespace Compiler

variable {c : Compiler} {arena : Arena} {source : String} {path : TypePath} {w w₁ w₂ : World}

/-- How the unit that the text is is judged, where the toolchain accepts it or does not: what keeps it
from being established, by the category of the halt, or nothing. -/
def verdict (c : Compiler) (t : Toolchain) (source : String) (accepts : Bool) :
    Except (Option String) Unit :=
  match SourceUnit.read source with
  | .error _ => .error (some "CompilationError")
  | .ok unit =>
    if areFinished unit.items = false then .error none
    else if (t.missing? c.toolchain).isSome then .error (some "ToolchainError")
    else if accepts then .ok () else .error (some "CompilationError")

/-- This is the verdict, whatever the answer of the toolchain is to what it was handed since. -/
def Judged (c : Compiler) (source : String) (path : TypePath) (w w' : World)
    (v : Except (Option String) Unit) : Prop :=
  ∀ accepts, (∀ i, w'.invocations = w.invocations ++ [i] → (w.nextReply i).Answers path accepts) →
    c.verdict w.toolchain source accepts = v

theorem Judged.quiet {v : Except (Option String) Unit} (h : c.Judged source path w w₁ v)
    (hquiet : w₂.invocations = w₁.invocations) : c.Judged source path w w₂ v :=
  fun accepts hanswers => h accepts fun i hi => hanswers i (hquiet.trans hi)

/-- The crate was handed over and the module that came back was loaded. -/
structure Loads (c : Compiler) (source : String) (w w' : World) (layouts : List TypeLayout) :
    Prop where
  fit : c.verdict w.toolchain source true = .ok ()
  handed : ∃ i loaded, w'.invocations = w.invocations ++ [i] ∧ w.nextReply i = .success loaded ∧
    layoutsOf loaded = .ok layouts

namespace Loads

variable {layouts : List TypeLayout}

theorem quiet (h : c.Loads source w w₁ layouts) (hquiet : w₂.invocations = w₁.invocations) :
    c.Loads source w w₂ layouts := by
  obtain ⟨hfit, i, loaded, hi, hreply⟩ := h
  exact ⟨hfit, i, loaded, hquiet.trans hi, hreply⟩

/-- The toolchain has accepted what was loaded, if it has answered at all. -/
theorem answers (h : c.Loads source w w₁ layouts) {accepts : Bool}
    (hanswers : ∀ i, w₁.invocations = w.invocations ++ [i] → (w.nextReply i).Answers path accepts) :
    accepts = true ∧ ∃ t ∈ layouts, t.path = path := by
  obtain ⟨-, i, loaded, hi, hreply, hlayouts⟩ := h
  have hanswer := hanswers i hi
  rw [hreply] at hanswer
  obtain ⟨hlayouts', ht, hpath⟩ := hanswer
  obtain rfl := Except.ok.inj (hlayouts'.symm.trans hlayouts)
  exact ⟨rfl, _, ht, hpath⟩

theorem judged (h : c.Loads source w w₁ layouts) : c.Judged source path w w₁ (.ok ()) := by
  intro accepts hanswers
  obtain ⟨rfl, -⟩ := h.answers hanswers
  exact h.fit

end Loads

theorem invoke_answers (c : Compiler) (i : Invocation) (file : String) :
    Ends (c.invoke i file) w
      (fun loaded w' => w.toolchain.missing? c.toolchain = none ∧ w.nextReply i = .success loaded ∧
        w' = { w with invocations := w.invocations ++ [i] })
      fun h w' => ((w.toolchain.missing? c.toolchain).isSome = true ∧
          h.kind? = some "ToolchainError") ∨
        (w.toolchain.missing? c.toolchain = none ∧ h.kind? = some "CompilationError" ∧
          (∃ stderr, w.nextReply i = .failure stderr) ∧
          w'.invocations = w.invocations ++ [i]) := by
  constructor
  rw [invoke_run]
  cases w.toolchain.missing? c.toolchain with
  | some cause => exact .inl ⟨rfl, rfl⟩
  | none =>
    cases hreply : w.nextReply i with
    | failure stderr => exact .inr ⟨rfl, rfl, ⟨stderr, rfl⟩, rfl⟩
    | success loaded => exact ⟨rfl, rfl, rfl⟩

/-- **Compiling a unit** fails because of the disk or as the verdict says. -/
theorem build_judged (c : Compiler) (arena : Arena) (source label : String) (path : TypePath)
    (origin : Origin) :
    Ends (c.build arena [source] label origin) w (fun p w' => c.Loads source w w' p.layouts)
      fun h w' => (∃ file cause, h = .failure (.io file cause)) ∨
        c.Judged source path w w' (.error h.kind?) := by
  refine (Action.ofExcept_ends _).bind ?_ ?_
  · rintro targets _ ⟨htargets, rfl⟩
    rename_i w
    obtain ⟨unit, hread, rfl⟩ := readTarget_singleton htargets
    have hfinished := areFinished_crateOf [unit] (references arena)
    simp only [List.forall_mem_singleton] at hfinished
    refine Action.freshId_ends.bind ?_ (fun _ _ h => h.elim)
    rintro _ _ ⟨rfl, rfl⟩
    refine (Action.ensureDirectory_ends _).bind ?_ fun _ _ h => .inl ⟨_, h.2⟩
    rintro _ _ ⟨d, n, -, rfl⟩
    dsimp only
    split
    · rename_i hcrate
      have hunit : areFinished unit.items = false := by
        rw [Bool.not_eq_true', ← Bool.not_eq_true, hfinished, Bool.not_eq_true] at hcrate
        exact hcrate
      refine (ends_throw (Q := fun _ _ => False) (.inr fun accepts _ => ?_)).bind
        (fun _ _ h => h.elim) (fun _ _ h => h)
      simp only [verdict, hread, hunit, if_pos, Halt.kind?]
    · rename_i hcrate
      have hunit : areFinished unit.items = true := by
        rwa [Bool.not_eq_true', Bool.not_eq_false, hfinished] at hcrate
      have hverdict : ∀ accepts, c.verdict w.toolchain source accepts =
          if (w.toolchain.missing? c.toolchain).isSome then .error (some "ToolchainError")
          else if accepts then .ok () else .error (some "CompilationError") := by
        intro accepts
        simp only [verdict, hread, hunit, Bool.true_eq_false, if_false]
      refine (Action.writeFile_ends _ _).bind ?_ ?_
      · rintro _ _ ⟨d', n', -, rfl⟩
        refine (invoke_answers _ _ _).bind ?_ ?_
        · rintro loaded _ ⟨hmissing, hreply, rfl⟩
          have hfit : c.verdict w.toolchain source true = .ok () := by
            rw [hverdict, hmissing]
            rfl
          split
          · rename_i fault hfault
            -- what cannot be loaded is no answer
            refine ends_throw (.inr fun accepts hanswers => ?_)
            have hanswer := hanswers _ rfl
            rw [show w.nextReply _ = _ from hreply] at hanswer
            obtain ⟨hlayouts, -, -⟩ := hanswer
            rw [hlayouts] at hfault
            cases hfault
          · rename_i layouts hlayouts
            exact ends_pure ⟨hfit, _, loaded, rfl, hreply, hlayouts⟩
        · rintro h _ (⟨hmissing, hkind⟩ | ⟨hmissing, hkind, ⟨stderr, hreply⟩, hhanded⟩)
          · refine .inr fun accepts _ => ?_
            rw [hverdict, if_pos hmissing, hkind]
          · refine .inr fun accepts hanswers => ?_
            have hanswer := hanswers _ hhanded
            rw [show w.nextReply _ = _ from hreply] at hanswer
            cases hanswer
            rw [hverdict, hmissing, hkind]
            rfl
      · rintro h _ ⟨_, _, cause, rfl, -⟩
        exact .inl ⟨_, cause, rfl⟩
  · rintro _ _ ⟨f, hf, rfl, rfl⟩
    obtain ⟨file, position, rfl⟩ := mapM_readTarget_error hf
    refine .inr fun accepts _ => ?_
    cases hread : SourceUnit.read source with
    | ok unit =>
      rw [mapM_readTarget_of_read hread] at hf
      cases hf
    | error _ =>
      simp only [verdict, hread]
      rfl

theorem compile_judged (c : Compiler) (arena : Arena) (source : String) (path : TypePath) :
    Ends (c.compile arena source path) w
      (fun p w' => p.defines path = true ∧ c.Loads source w w' p.layouts)
      fun h w' => (∃ file cause, h = .failure (.io file cause)) ∨
        c.Judged source path w w' (.error h.kind?) := by
  refine (build_judged c arena source path.name path .dynamic).bind ?_ fun _ _ h => h
  intro p w' hloads
  split
  · rename_i hdefines
    exact ends_pure ⟨hdefines, hloads⟩
  · rename_i hdefines
    refine ends_throw (.inr fun accepts hanswers => ?_)
    obtain ⟨-, t, ht, hpath⟩ := hloads.answers hanswers
    exact absurd (List.any_eq_true.2 ⟨t, ht, decide_eq_true hpath⟩) hdefines

end Compiler

/-- **What was planned** is established unless the disk is in the way or the verdict says otherwise. -/
theorem establish_judged (name source : String) (path : TypePath) {f : Foundry} {w : World} :
    Ends (Foundry.establish name source path) (f, w)
      (fun _ s => f.compiler.Judged source path w s.2 (.ok ()))
      fun h s => (∃ file cause, h = .failure (.io file cause)) ∨
        f.compiler.Judged source path w s.2 (.error h.kind?) := by
  refine foundry_ends.bind ?_ (fun _ _ h => h)
  rintro _ _ ⟨rfl, rfl⟩
  rename_i f
  refine (ofAction_ends (Compiler.compile_judged _ _ _ _)).bind ?_ ?_
  · rintro p _ ⟨w₁, rfl, hdefines, hloads⟩
    have hsave := (Quiet.save f.store name source w₁).and (save_ends f.store name source)
    refine (ofAction_ends hsave).bind ?_ ?_
    · rintro file _ ⟨w₂, rfl, hquiet, -⟩
      obtain ⟨handle, -, hcommit⟩ := commit_of_defines hdefines f.arena
      rw [hcommit]
      refine (put_ends _).bind ?_ (fun _ _ h => h)
      rintro _ _ rfl
      refine (ofAction_ends (Action.ofExcept_ends (.ok handle))).bind ?_ ?_
      · rintro _ _ ⟨_, rfl, -, rfl⟩
        refine (put_ends _).bind ?_ (fun _ _ h => h)
        rintro _ _ rfl
        exact ends_pure (hloads.judged.quiet hquiet)
      · rintro _ _ ⟨_, _, _, herror, _⟩
        cases herror
    · rintro h _ ⟨w₂, rfl, -, hio, -⟩
      exact .inl hio
  · rintro h _ ⟨w₁, rfl, hh⟩
    exact hh

/-! ## Requests -/

namespace Request

variable {f : Foundry} {w : World} {q : Request} {r : Except Halt Answer} {s : Foundry × World}
  {accepts : Bool}

/-- What comes of a request, with halts by their category. -/
def outcome (r : Except Halt Answer) : Except (Option String) Answer := r.mapError Halt.kind?

/-- The plan that is carried out, or the category of the halt, where the toolchain accepts the crate of the
request or does not. -/
def decided (f : Foundry) (w : World) (q : Request) (accepts : Bool) : Except (Option String) Plan := do
  let p ← (plan f w q).mapError Halt.kind?
  f.compiler.verdict w.toolchain p.source accepts
  return p

/-- What is stored can be read, and the disk is no reason for a request that was planned to fail. -/
structure Unhindered (f : Foundry) (w : World) (q : Request) : Prop where
  reads : w.obstacles w.operations = none
  saves : ∀ p file cause, plan f w q = .ok p →
    (q.serve (f, w)).1 ≠ .error (.failure (.io file cause))

/-- The toolchain accepts the crate that the request hands to it, with a module that describes the type, or
it fails. -/
def Answered (f : Foundry) (w : World) (q : Request) (accepts : Bool) : Prop :=
  ∀ p i, plan f w q = .ok p → (q.serve (f, w)).2.2.invocations = w.invocations ++ [i] →
    (w.nextReply i).Answers p.path accepts

/-- What comes of the request and what it leaves, by the plan that is carried out. -/
inductive Concludes (f : Foundry) (w : World) (q : Request) :
    Except (Option String) Plan → Except Halt Answer → Foundry × World → Prop where
  | established {p : Plan} {s : Foundry × World} : plan f w q = .ok p →
    Established f w p.name p.source p.path s.1 s.2 →
    Concludes f w q (.ok p) (.ok (q.answer p.path (f.store.path p.name))) s
  | halted {h : Halt} {s : Foundry × World} : s.1 = f → ServeHalt f w q h s.2 →
    Concludes f w q (.error h.kind?) (.error h) s

theorem decided_of_declined {h : Halt} (hplan : plan f w q = .error h) (accepts : Bool) :
    decided f w q accepts = .error h.kind? := by
  rw [decided, hplan]
  rfl

theorem decided_of_planned {p : Plan} {v : Except (Option String) Unit} (hplan : plan f w q = .ok p)
    (hverdict : f.compiler.verdict w.toolchain p.source accepts = v) :
    decided f w q accepts = v.map fun _ => p := by
  rw [decided, hplan]
  simp only [Except.mapError, bind, Except.bind, hverdict]
  cases v <;> rfl

/-- **Serving a request** ends as its plan is judged. -/
theorem run_judged (q : Request) (hread : w.obstacles w.operations = none) :
    Ends q.run (f, w)
      (fun a s => ∃ p, plan f w q = .ok p ∧ a = q.answer p.path (f.store.path p.name) ∧
        Established f w p.name p.source p.path s.1 s.2 ∧
        f.compiler.Judged p.source p.path w s.2 (.ok ()))
      fun h s => plan f w q = .error h ∨ ∃ p, plan f w q = .ok p ∧
        ((∃ file cause, h = .failure (.io file cause)) ∨
          f.compiler.Judged p.source p.path w s.2 (.error h.kind?)) := by
  refine run_planned q hread (fun h n hplan => .inl hplan) fun p n hplan => ?_
  refine ((establish_ends _ _ _).and (establish_judged _ _ _)).mono ?_ ?_
  · rintro file s ⟨⟨rfl, hs⟩, hjudged⟩
    have hestablished : Established f w p.name p.source p.path s.1 s.2 :=
      ⟨hs.leads.of_operations, hs.drawn, hs.stored, hs.others, hs.admitted⟩
    exact ⟨p, hplan, rfl, hestablished, hjudged⟩
  · rintro h s ⟨-, hjudged⟩
    exact .inr ⟨p, hplan, hjudged⟩

/-- **What comes of a request** is what its plan and the verdict say. -/
theorem serve_concludes (hrun : q.serve (f, w) = (r, s)) (hunhindered : Unhindered f w q)
    (hanswered : Answered f w q accepts) : Concludes f w q (decided f w q accepts) r s := by
  have hanswers : ∀ p, plan f w q = .ok p → ∀ i, s.2.invocations = w.invocations ++ [i] →
      (w.nextReply i).Answers p.path accepts := by
    intro p hplan i hi
    refine hanswered p i hplan ?_
    rw [hrun]
    exact hi
  cases r with
  | ok a =>
    obtain ⟨p, hplan, rfl, hestablished, hjudged⟩ := (run_judged q hunhindered.reads).of_ok hrun
    rw [decided_of_planned hplan (hjudged accepts (hanswers p hplan))]
    exact .established hplan hestablished
  | error h =>
    obtain ⟨hf, hhalt⟩ := serve_error hrun
    have hdecided : decided f w q accepts = .error h.kind? := by
      obtain hplan | ⟨p, hplan, ⟨file, cause, rfl⟩ | hjudged⟩ :=
        (run_judged q hunhindered.reads).of_error hrun
      · exact decided_of_declined hplan accepts
      · exact absurd (congrArg Prod.fst hrun) (hunhindered.saves p file cause hplan)
      · exact decided_of_planned hplan (hjudged accepts (hanswers p hplan))
    rw [hdecided]
    exact .halted hf hhalt

theorem Concludes.outcome_eq {d : Except (Option String) Plan} (h : Concludes f w q d r s) :
    outcome r = d.map fun p => q.answer p.path (f.store.path p.name) := by
  cases h <;> rfl

end Request

end TypeFoundry
