import TypeFoundry.Proofs.Describing
import TypeFoundry.Proofs.Serving

/-!
# What requests hand to the toolchain

Most actions hand over nothing (`Quiet`). Compiling units hands over one crate, which is made of them
and of the units of the arena (`build_hands_units`). So a request hands over the crate of the unit that
it prepares, or nothing if it fails (`serve_hands`).
-/

set_option autoImplicit false

namespace TypeFoundry

open Source Synthesis

/-! ## Quiet actions -/

/-- The action hands nothing to the toolchain. -/
def Quiet {α : Type} (a : Action α) : Prop :=
  ∀ w, Ends a w (fun _ w' => w'.invocations = w.invocations)
    fun _ w' => w'.invocations = w.invocations

namespace Quiet

variable {α β : Type} {a : Action α}

theorem pure (x : α) : Quiet (pure x : Action α) := fun _ => ends_pure rfl

theorem throw (h : Halt) : Quiet (throw h : Action α) := fun _ => ends_throw rfl

theorem bind {g : α → Action β} (h : Quiet a) (hg : ∀ x, Quiet (g x)) : Quiet (a >>= g) :=
  fun w => (h w).bind
    (fun x w' hw => (hg x w').mono (fun _ _ h => h.trans hw) fun _ _ h => h.trans hw)
    fun _ _ hw => hw

theorem atPath (path : String) (r : Except Files.Cause α) : Quiet (Action.atPath path r) := by
  cases r with
  | ok x => exact pure x
  | error cause => exact throw _

theorem ofExcept (r : Except Failure α) : Quiet (Action.ofExcept r) := by
  cases r with
  | ok x => exact pure x
  | error f => exact throw _

theorem ofHalting (r : Except Halt α) : Quiet (Action.ofHalting r) := by
  cases r with
  | ok x => exact pure x
  | error h => exact throw h

theorem isFile (path : String) : Quiet (Action.isFile path) := fun _ => ⟨rfl⟩

theorem freshId : Quiet Action.freshId := fun _ => ⟨rfl⟩

theorem readFile (path : String) : Quiet (Action.readFile path) := by
  intro w
  refine (Action.look_ends _).mono ?_ fun _ _ h => h.elim
  rintro r _ ⟨-, n, rfl⟩
  rfl

theorem writeFile (path text : String) : Quiet (Action.writeFile path text) := by
  intro w
  refine (Action.writeFile_ends path text).mono ?_ ?_
  · rintro _ _ ⟨d, n, -, rfl⟩
    rfl
  · rintro _ _ ⟨d, n, c, -, -, rfl⟩
    rfl

theorem renameFile (source target : String) : Quiet (Action.renameFile source target) := by
  intro w
  refine (Action.renameFile_ends source target).mono ?_ ?_
  · rintro _ _ ⟨d, n, -, rfl⟩
    rfl
  · rintro _ _ ⟨n, c, -, rfl⟩
    rfl

theorem ensureDirectory (path : String) : Quiet (Action.ensureDirectory path) := by
  intro w
  refine (Action.ensureDirectory_ends path).mono ?_ ?_
  · rintro _ _ h
    exact (sameWorld_leads h).2.2.1
  · rintro _ _ ⟨h, -⟩
    exact (sameWorld_leads h).2.2.1

theorem load (s : Store) (name : String) : Quiet (s.load name) := by
  refine (readFile _).bind fun r => ?_
  cases r with
  | ok source => exact pure source
  | error cause =>
    dsimp only
    split
    · exact throw _
    · exact throw _

theorem save (s : Store) (name source : String) : Quiet (s.save name source) :=
  (ensureDirectory _).bind fun _ => (writeFile _ _).bind fun _ => (renameFile _ _).bind fun _ => pure _

end Quiet

/-! ## Compiling -/

/-- The crate of the unit that the text is was handed over, along with the arena. -/
def Handed (arena : Arena) (source : String) (w w' : World) : Prop :=
  ∃ (i : Invocation) (unit : SourceUnit), SourceUnit.read source = .ok unit ∧
    i.text = (Compiler.crateOf [unit] (Compiler.references arena)).text ∧
    w'.invocations = w.invocations ++ [i]

/-- Nothing was handed over, or that crate. -/
def MayHand (arena : Arena) (source : String) (w w' : World) : Prop :=
  w'.invocations = w.invocations ∨ Handed arena source w w'

section

variable {arena : Arena} {source : String} {w w₁ w₂ : World}

theorem Handed.quiet (h : Handed arena source w w₁) (h' : w₂.invocations = w₁.invocations) :
    Handed arena source w w₂ := by
  obtain ⟨i, unit, hread, htext, h⟩ := h
  exact ⟨i, unit, hread, htext, h'.trans h⟩

theorem invoke_hands (c : Compiler) (i : Invocation) (file : String) :
    Ends (c.invoke i file) w (fun _ w' => w'.invocations = w.invocations ++ [i])
      fun _ w' => w'.invocations = w.invocations ∨ w'.invocations = w.invocations ++ [i] := by
  constructor
  rw [invoke_run]
  cases w.toolchain.missing? c.toolchain with
  | some cause => exact .inl rfl
  | none =>
    cases w.nextReply i with
    | failure stderr => exact .inr rfl
    | success loaded => rfl

/-- One text is to be compiled: it is read as a unit. -/
theorem readTarget_singleton {label : String} {targets : List SourceUnit}
    (h : [source].mapM (Compiler.readTarget label) = .ok targets) :
    ∃ unit, SourceUnit.read source = .ok unit ∧ targets = [unit] := by
  rw [List.mapM_cons] at h
  cases hread : Compiler.readTarget label source with
  | error e => rw [hread] at h; cases h
  | ok unit =>
    rw [hread] at h
    exact ⟨unit, Compiler.readTarget_ok hread, (Except.ok.inj h).symm⟩

/-- The crate of the units that the texts are was handed over, along with the arena. -/
def HandedUnits (arena : Arena) (label : String) (units : List String) (w w' : World) : Prop :=
  ∃ (i : Invocation) (targets : List SourceUnit), units.mapM (Compiler.readTarget label) = .ok targets ∧
    i.text = (Compiler.crateOf targets (Compiler.references arena)).text ∧
    w'.invocations = w.invocations ++ [i]

/-- **Compiling units** hands over their crate; if it fails, nothing may have been handed over. -/
theorem build_hands_units (c : Compiler) (arena : Arena) (units : List String) (label : String)
    (origin : Origin) :
    Ends (c.build arena units label origin) w (fun _ w' => HandedUnits arena label units w w')
      fun _ w' => w'.invocations = w.invocations ∨ HandedUnits arena label units w w' := by
  refine (Action.ofExcept_ends _).bind ?_ ?_
  · rintro targets _ ⟨htargets, rfl⟩
    rename_i w
    refine (Quiet.freshId w).bind ?_ fun _ _ h => .inl h
    intro id w₁ h₁
    dsimp only
    refine (Quiet.ensureDirectory _ w₁).bind ?_ fun _ _ h => .inl (h.trans h₁)
    intro _ w₂ h₂
    split
    · exact ends_throw (.inl (h₂.trans h₁))
    · refine (Quiet.writeFile _ _ w₂).bind ?_ fun _ _ h => .inl ((h.trans h₂).trans h₁)
      intro _ w₃ h₃
      have hquiet : w₃.invocations = w.invocations := (h₃.trans h₂).trans h₁
      have hhanded : ∀ {i : Invocation} {w' : World}, w'.invocations = w₃.invocations ++ [i] →
          i.text = (Compiler.crateOf targets (Compiler.references arena)).text →
          HandedUnits arena label units w w' := by
        intro i w' h htext
        exact ⟨i, targets, htargets, htext, h.trans (by rw [hquiet])⟩
      refine (invoke_hands c _ _).bind ?_ ?_
      · intro loaded w₄ h₄
        have h₄ := hhanded h₄ rfl
        split
        · exact ends_throw (.inr h₄)
        · exact ends_pure h₄
      · rintro _ w₄ (h₄ | h₄)
        · exact .inl (h₄.trans hquiet)
        · exact .inr (hhanded h₄ rfl)
  · rintro _ _ ⟨_, -, -, rfl⟩
    exact .inl rfl

theorem build_hands (c : Compiler) (arena : Arena) (source label : String) (origin : Origin) :
    Ends (c.build arena [source] label origin) w (fun _ w' => Handed arena source w w')
      fun _ w' => MayHand arena source w w' := by
  have hhanded : ∀ {w'}, HandedUnits arena label [source] w w' → Handed arena source w w' := by
    intro w' ⟨i, targets, htargets, htext, hinvocations⟩
    obtain ⟨unit, hunit, rfl⟩ := readTarget_singleton htargets
    exact ⟨i, unit, hunit, htext, hinvocations⟩
  exact (build_hands_units c arena [source] label origin).mono (fun _ _ h => hhanded h)
    fun _ _ h => h.imp_right hhanded

end

/-! ## Requests -/

/-- An action of a step leaves the foundry, and says what was handed over. -/
theorem ofAction_hands {α : Type} {a : Action α} {f : Foundry} {w : World} {P E : World → Prop}
    (h : Ends a w (fun _ w' => P w') fun _ w' => E w') :
    Ends (Step.ofAction a) (f, w) (fun _ s => s.1 = f ∧ P s.2) fun _ s => E s.2 := by
  refine (ofAction_ends h).mono ?_ ?_
  · rintro _ _ ⟨w', rfl, hw'⟩
    exact ⟨rfl, hw'⟩
  · rintro _ _ ⟨w', rfl, hw'⟩
    exact hw'

theorem establish_hands (name source : String) (path : TypePath) {f : Foundry} {w : World} :
    Ends (Foundry.establish name source path) (f, w) (fun _ s => Handed f.arena source w s.2)
      fun _ s => MayHand f.arena source w s.2 := by
  have hcompile : Ends (f.compiler.compile f.arena source path) w
      (fun _ w' => Handed f.arena source w w') fun _ w' => MayHand f.arena source w w' := by
    refine (build_hands _ _ _ _ _).bind ?_ fun _ _ h => h
    intro p w' h
    split
    · exact ends_pure h
    · exact ends_throw (.inr h)
  refine foundry_ends.bind ?_ (fun _ _ h => h)
  rintro _ _ ⟨rfl, rfl⟩
  rename_i f
  refine (ofAction_hands hcompile).bind ?_ fun _ _ h => h
  rintro p ⟨g₁, w₁⟩ ⟨-, h₁⟩
  refine (ofAction_hands (Quiet.save f.store name source w₁)).bind ?_ fun _ _ h => .inr (h₁.quiet h)
  rintro file ⟨g₂, w₂⟩ ⟨-, h₂⟩
  have h₂ := h₁.quiet h₂
  dsimp only
  refine (put_ends _).bind ?_ (fun _ _ h => h)
  rintro _ _ rfl
  refine (ofAction_hands (Quiet.ofExcept _ w₂)).bind ?_ fun _ _ h => .inr (h₂.quiet h)
  rintro handle ⟨g₃, w₃⟩ ⟨-, h₃⟩
  refine (put_ends _).bind ?_ (fun _ _ h => h)
  rintro _ _ rfl
  exact ends_pure (h₂.quiet h₃)

namespace Request

/-- The crate of the unit that the request prepares was handed over. -/
def Hands (f : Foundry) (w : World) (q : Request) (w' : World) : Prop :=
  ∃ name source path, Prepares f w q name source path ∧ Handed f.arena source w w'

/-- Nothing was handed over, or the crate of the unit that the request prepares. -/
def MayHand (f : Foundry) (w : World) (q : Request) (w' : World) : Prop :=
  w'.invocations = w.invocations ∨ Hands f w q w'

theorem MayHand.of_establish {f : Foundry} {w w' : World} {q : Request} {name source : String}
    {path : TypePath} (hprepares : Prepares f w q name source path)
    (h : TypeFoundry.MayHand f.arena source w w') : MayHand f w q w' :=
  h.imp id fun h => ⟨name, source, path, hprepares, h⟩

theorem run_hands (q : Request) {f : Foundry} {w : World} :
    Ends q.run (f, w) (fun _ s => Hands f w q s.2) fun _ s => MayHand f w q s.2 := by
  refine run_prepared q (fun _ _ _ => .inl rfl) fun name source path n hprepares => ?_
  exact (establish_hands name source path).mono (fun _ _ h => ⟨_, _, _, hprepares, h⟩)
    fun _ _ h => .of_establish hprepares h

/-- A request that succeeds has handed over the crate of the unit that it prepares. -/
theorem serve_ok_hands {q : Request} {f : Foundry} {w : World} {a : Answer} {s : Foundry × World}
    (h : q.serve (f, w) = (.ok a, s)) : Hands f w q s.2 :=
  (run_hands q).of_ok h

/-- **A request hands over** the crate of the unit that it prepares, or nothing. -/
theorem serve_hands {q : Request} {f : Foundry} {w : World} {r : Except Halt Answer}
    {s : Foundry × World} (h : q.serve (f, w) = (r, s)) : MayHand f w q s.2 := by
  cases r with
  | ok a => exact .inr (serve_ok_hands h)
  | error e => exact (run_hands q).of_error h

end Request

end TypeFoundry
