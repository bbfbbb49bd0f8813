import TypeFoundry.Proofs.Crates
import TypeFoundry.Proofs.Messages

/-!
# Failed compilations explain themselves

An operation fails as a compilation where a text is no unit, or where the toolchain rejects the crate that
it was handed; everything else fails in other ways (`Spares`). `Explained` says so of the world before and
after an operation, and every operation keeps to it: those of a compiler, the start of a foundry and all
requests. So no compilation fails without a diagnostic, and for each crate that is rejected the diagnostics
are those that the output of the toolchain comes to (`errors_explained`).
-/

set_option autoImplicit false

namespace TypeFoundry

open Source Synthesis

/-! ## Other failures -/

/-- If the result is a failure, it is not one of a compilation. -/
def Spares {α : Type} (r : Except Halt α) : Prop :=
  ∀ f, r = .error (.failure f) → f.kind ≠ "CompilationError"

namespace Spares

variable {α β : Type}

theorem ok (x : α) : Spares (.ok x) := fun _ h => nomatch h

theorem aborted : Spares (.error .aborted : Except Halt α) := by
  rintro f ⟨⟩

theorem failure {f : Failure} (h : f.kind ≠ "CompilationError") :
    Spares (.error (.failure f) : Except Halt α) := by
  rintro _ ⟨⟩
  exact h

theorem bind {r : Except Halt α} {next : α → Except Halt β} (h : Spares r)
    (hnext : ∀ x, Spares (next x)) : Spares (r >>= next) := by
  cases r with
  | ok x => exact hnext x
  | error h' =>
    rintro f ⟨⟩
    exact h f rfl

theorem readFor (typeName source : String) :
    Spares ((SourceUnit.readFor typeName source).mapError .failure) := by
  unfold SourceUnit.readFor
  split
  · exact ok _
  · exact failure (by simp [Failure.kind])

theorem structNamed (unit : SourceUnit) (typeName : String) :
    Spares ((unit.structNamed typeName).mapError .failure) := by
  unfold SourceUnit.structNamed
  split
  · exact ok _
  · exact failure (by simp [Failure.kind])

theorem fieldType (resolve : TypePath → Option TypePath) (current : List String) (r : FieldRequest) :
    Spares (fieldType resolve current r) := by
  intro f h
  unfold Synthesis.fieldType at h
  dsimp only at h
  repeat' split at h
  all_goals cases h
  all_goals simp [Failure.kind]

theorem addFieldTo (unit : SourceUnit) (typeName : String) (r : FieldRequest)
    (resolve : TypePath → Option TypePath) : Spares (addFieldTo unit typeName r resolve) := by
  unfold Synthesis.addFieldTo
  refine (structNamed unit typeName).bind fun ⟨path, located⟩ => ?_
  dsimp only
  split
  · split
    · exact failure (by simp [Failure.kind])
    · refine (fieldType resolve path r).bind fun _ => ?_
      split
      · split
        · split
          · split
            · exact aborted
            · exact ok _
          · exact ok _
        · exact failure (by simp [Failure.kind])
      · exact failure (by simp [Failure.kind])
  · exact failure (by simp [Failure.kind])

end Spares

theorem Request.Declines.spares {f : Foundry} {w : World} {q : Request} {e : Failure}
    (h : q.Declines f w (.failure e)) : e.kind ≠ "CompilationError" := by
  cases h with
  | schema _ fault => simp [Failure.kind]
  | alreadyExists r => simp [Failure.kind]
  | unnamed hnew =>
    unfold newType at hnew
    split at hnew <;> cases hnew
  | notFound name r => simp [Failure.kind]
  | unread name r file cause => simp [Failure.kind]
  | @unlocated name old r _ hread hpath =>
    -- the path is looked up as in the request itself, by failures instead of halts
    refine Spares.bind (.readFor name old) (fun unit => .structNamed unit name) e ?_
    unfold typePath at hpath
    cases hunit : SourceUnit.readFor name old with
    | error e' =>
      rw [hunit] at hpath
      obtain rfl := Except.error.inj hpath
      rfl
    | ok unit =>
      rw [hunit] at hpath
      cases hstruct : unit.structNamed name with
      | error e' =>
        simp only [bind, Except.bind, hstruct, Except.error.injEq] at hpath
        subst hpath
        simp [bind, Except.bind, Except.mapError, hstruct]
      | ok located =>
        simp only [bind, Except.bind, hstruct] at hpath
        cases hpath
  | @refused name old r _ hread hadd =>
    refine Spares.bind (.readFor name old) (fun unit => .bind (.addFieldTo unit name r f.catalog.resolve)
      fun edited => ?_) e hadd
    split
    · exact .ok _
    · exact .aborted

/-! ## What the toolchain answered -/

/-- The halt that the result is, if it is one. -/
def halted {α : Type} : Except Halt α → Option Halt
  | .ok _ => none
  | .error h => some h

/-- **What an operation comes to is explained** by what the toolchain answered since the earlier world. It
was not asked, and if the operation fails as a compilation, a text is no unit. Or it accepted the crate that
it was handed, and the operation does not fail as a compilation. Or it rejected that crate, and the operation
fails with the diagnostics of its output. -/
inductive Explained (c : Compiler) (w w' : World) : Option Halt → Prop where
  | quiet {o : Option Halt} : w'.invocations = w.invocations →
    (∀ f, o = some (.failure f) → f.kind = "CompilationError" →
      ∃ file position, f = .unreadable file position) →
    Explained c w w' o
  | accepted {o : Option Halt} {i : Invocation} {loaded : Loaded} :
    w'.invocations = w.invocations ++ [i] → w.nextReply i = .success loaded →
    (∀ f, o = some (.failure f) → f.kind ≠ "CompilationError") → Explained c w w' o
  | rejected {i : Invocation} {stderr : List UInt8} :
    w'.invocations = w.invocations ++ [i] → w.nextReply i = .failure stderr →
    Explained c w w' (some (.failure (.compilation (failureDiagnostics (c.crateFile i.crate) stderr))))

namespace Explained

variable {c : Compiler} {w w₁ w₂ : World} {o : Option Halt}

/-- Nothing was asked, and the operation does not fail as a compilation. -/
theorem of_quiet (hquiet : w₁.invocations = w.invocations)
    (ho : ∀ f, o = some (.failure f) → f.kind ≠ "CompilationError") : Explained c w w₁ o :=
  .quiet hquiet fun f hf hkind => absurd hkind (ho f hf)

/-- Nothing was asked before. -/
theorem before (h : Explained c w₁ w₂ o) (hquiet : w₁.invocations = w.invocations)
    (htoolchain : w₁.toolchain = w.toolchain) : Explained c w w₂ o := by
  have hreply : w₁.nextReply = w.nextReply := by rw [World.nextReply, World.nextReply, hquiet, htoolchain]
  cases h with
  | quiet hsame ho => exact .quiet (hsame.trans hquiet) ho
  | accepted hasked hanswer ho => exact .accepted (hquiet ▸ hasked) (hreply ▸ hanswer) ho
  | rejected hasked hanswer => exact .rejected (hquiet ▸ hasked) (hreply ▸ hanswer)

/-- Nothing was asked afterwards, and the operation does not fail as a compilation there. -/
theorem after (h : Explained c w w₁ none) (hquiet : w₂.invocations = w₁.invocations)
    (ho : ∀ f, o = some (.failure f) → f.kind ≠ "CompilationError") : Explained c w w₂ o := by
  cases h with
  | quiet hsame _ => exact .of_quiet (hquiet.trans hsame) ho
  | accepted hasked hanswer _ => exact .accepted (hquiet.trans hasked) hanswer ho

/-- **No compilation fails without a diagnostic.** -/
theorem diagnostics_ne_nil {f : Failure} (h : Explained c w w₁ (some (.failure f)))
    (hkind : f.kind = "CompilationError") : f.diagnostics ≠ [] := by
  cases h with
  | quiet _ ho =>
    obtain ⟨file, position, rfl⟩ := ho f rfl hkind
    exact List.cons_ne_nil _ _
  | accepted _ _ ho => exact absurd hkind (ho f rfl)
  | rejected _ _ => exact failureDiagnostics_ne_nil _ _

/-- **A crate that is rejected** fails the operation, with the diagnostics of the output. -/
theorem of_rejected {i : Invocation} {stderr : List UInt8} (h : Explained c w w₁ o)
    (hasked : w₁.invocations = w.invocations ++ [i]) (hanswer : w.nextReply i = .failure stderr) :
    o = some (.failure (.compilation (failureDiagnostics (c.crateFile i.crate) stderr))) := by
  cases h with
  | quiet hsame _ => simp [hsame] at hasked
  | accepted hasked' hanswer' _ =>
    obtain rfl : _ = i := by simpa using hasked'.symm.trans hasked
    simp [hanswer'] at hanswer
  | rejected hasked' hanswer' =>
    obtain rfl : _ = i := by simpa using hasked'.symm.trans hasked
    obtain rfl := Reply.failure.inj (hanswer'.symm.trans hanswer)
    rfl

end Explained

/-! ## Compilations -/

/-- What runs is explained, however it ends. -/
abbrev Explains {α : Type} (c : Compiler) (a : Action α) (w : World) : Prop :=
  Ends a w (fun _ w' => Explained c w w' none) fun h w' => Explained c w w' (some h)

theorem invoke_explained (c : Compiler) (i : Invocation) {w : World} :
    Explains c (c.invoke i (c.crateFile i.crate)) w := by
  constructor
  rw [invoke_run]
  cases w.toolchain.missing? c.toolchain with
  | some cause =>
    refine .of_quiet rfl ?_
    rintro _ ⟨rfl⟩
    simp [Failure.kind]
  | none =>
    cases hreply : w.nextReply i with
    | failure stderr => exact .rejected rfl hreply
    | success loaded => exact .accepted rfl hreply (by simp)

/-- A halt because of the disk is no failed compilation. -/
theorem ne_compilation_of_io {h : Halt} {f : Failure} (hio : ∃ path cause, h = .failure (.io path cause))
    (hf : some h = some (.failure f)) : f.kind ≠ "CompilationError" := by
  obtain ⟨path, cause, rfl⟩ := hio
  cases hf
  simp [Failure.kind]

/-- **Compiling** is explained by the texts that are no units, or by the answer to the one crate. -/
theorem build_explained (c : Compiler) (arena : Arena) (units : List String) (label : String)
    (origin : Origin) {w : World} : Explains c (c.build arena units label origin) w := by
  refine (Action.ofExcept_ends _).bind ?_ ?_
  · rintro targets _ ⟨-, rfl⟩
    rename_i w
    refine Action.freshId_ends.bind ?_ (fun _ _ h => h.elim)
    rintro _ _ ⟨rfl, rfl⟩
    refine (Action.ensureDirectory_ends _).bind ?_ ?_
    · rintro _ _ ⟨d, n, -, rfl⟩
      dsimp only
      split
      · exact (ends_throw (Q := fun _ _ => False) (.of_quiet rfl nofun)).bind (fun _ _ h => h.elim)
          (fun _ _ h => h)
      · refine (Action.writeFile_ends _ _).bind ?_ ?_
        · rintro _ _ ⟨d', n', -, rfl⟩
          refine (invoke_explained c _).bind ?_ fun _ _ h => h.before rfl rfl
          intro loaded w' h
          split
          · refine ends_throw (Explained.before (h.after rfl ?_) rfl rfl)
            rintro _ ⟨rfl⟩
            simp [Failure.kind]
          · exact ends_pure (h.before rfl rfl)
        · rintro h _ ⟨d', n', cause, rfl, -, rfl⟩
          exact .of_quiet rfl fun f hf => ne_compilation_of_io ⟨_, _, rfl⟩ hf
    · rintro h _ ⟨⟨d, n, -, rfl⟩, hio⟩
      exact .of_quiet rfl fun f hf => ne_compilation_of_io ⟨_, hio⟩ hf
  · rintro _ _ ⟨e, he, rfl, rfl⟩
    refine .quiet rfl ?_
    rintro _ ⟨rfl⟩ -
    exact mapM_readTarget_error he

theorem compile_explained (c : Compiler) (arena : Arena) (source : String) (path : TypePath) {w : World} :
    Explains c (c.compile arena source path) w := by
  refine (build_explained c arena [source] path.name .dynamic).bind ?_ fun _ _ h => h
  intro p w' h
  split
  · exact ends_pure h
  · refine ends_throw (h.after rfl ?_)
    rintro _ ⟨rfl⟩
    simp [Failure.kind]

theorem establish_explained (name source : String) (path : TypePath) {f : Foundry} {w : World} :
    Ends (Foundry.establish name source path) (f, w) (fun _ s => Explained f.compiler w s.2 none)
      fun h s => Explained f.compiler w s.2 (some h) := by
  refine foundry_ends.bind ?_ (fun _ _ h => h)
  rintro _ _ ⟨rfl, rfl⟩
  rename_i f
  have hcompile := (compile_ends f.compiler f.arena source path).and
    (compile_explained f.compiler f.arena source path (w := w))
  refine (ofAction_ends hcompile).bind ?_ ?_
  · rintro p _ ⟨w₁, rfl, ⟨-, hdefines, -⟩, hexplained⟩
    have hsave := (Quiet.save f.store name source w₁).and (save_ends f.store name source)
    refine (ofAction_ends hsave).bind ?_ ?_
    · rintro file _ ⟨w₂, rfl, hquiet, -⟩
      -- the module describes the type, so it joins and nothing fails from here on
      obtain ⟨handle, -, hcommit⟩ := commit_of_defines hdefines f.arena
      rw [hcommit]
      refine (put_ends _).bind ?_ (fun _ _ h => h)
      rintro _ _ rfl
      refine (ofAction_ends (Action.ofExcept_ends (.ok handle))).bind ?_ ?_
      · rintro _ _ ⟨_, rfl, -, rfl⟩
        refine (put_ends _).bind ?_ (fun _ _ h => h)
        rintro _ _ rfl
        exact ends_pure (hexplained.after hquiet nofun)
      · rintro _ _ ⟨_, _, _, herror, _⟩
        cases herror
    · rintro h _ ⟨w₂, rfl, hquiet, hio, -⟩
      exact hexplained.after hquiet fun f hf => ne_compilation_of_io hio hf
  · rintro h _ ⟨w₁, rfl, -, hexplained⟩
    exact hexplained

/-! ## Operations -/

namespace Request

/-- **A request** is explained. -/
theorem run_explained (q : Request) {f : Foundry} {w : World} :
    Ends q.run (f, w) (fun _ s => Explained f.compiler w s.2 none)
      fun h s => Explained f.compiler w s.2 (some h) := by
  refine run_prepared q (fun h n hdeclines => ?_) fun name source path n _ => ?_
  · refine .of_quiet rfl ?_
    rintro e ⟨rfl⟩
    exact hdeclines.spares
  · exact (establish_explained name source path).mono (fun _ _ h => h.before rfl rfl)
      fun _ _ h => h.before rfl rfl

theorem serve_explained (q : Request) (f : Foundry) (w : World) :
    Explained f.compiler w (q.serve (f, w)).2.2 (halted (q.serve (f, w)).1) := by
  generalize hserve : q.serve (f, w) = r
  obtain ⟨h | a, s⟩ := r
  · exact (run_explained q).of_error hserve
  · exact (run_explained q).of_ok hserve

end Request

namespace Foundry

theorem preload_explained (f : Foundry) (s : Settings) {w : World} :
    Explains f.compiler (f.preload s) w := by
  refine (storedUnits_ends _).bind ?_ ?_
  · rintro units _ ⟨-, n, rfl⟩
    split
    · exact ends_pure (.of_quiet rfl nofun)
    · refine (build_explained _ _ _ _ _).bind ?_ fun _ _ h => h.before rfl rfl
      intro p w' h
      exact ends_pure (h.before rfl rfl)
  · rintro h _ ⟨hunread, n, rfl⟩
    exact .of_quiet rfl fun f hf => ne_compilation_of_io hunread hf

/-- **The start** of a foundry is explained. -/
theorem start_explained (s : Settings) {w : World} : Explains (compilerOf s) (start s) w := by
  have hsettings : ∀ {e : Failure} {w : World}, (∃ fault, e = .settings fault) →
      Explained (compilerOf s) w w (some (.failure e)) := by
    rintro _ w ⟨fault, rfl⟩
    refine .of_quiet rfl ?_
    rintro _ ⟨rfl⟩
    simp [Failure.kind]
  refine (Action.ofExcept_ends _).bind ?_ ?_
  · rintro _ _ ⟨-, rfl⟩
    rename_i w
    refine (Action.ofExcept_ends _).bind ?_ ?_
    · rintro modules _ ⟨-, rfl⟩
      dsimp only
      split
      · exact preload_explained _ s
      · exact ends_pure (.of_quiet rfl (by simp))
    · rintro _ _ ⟨e, he, rfl, rfl⟩
      exact hsettings (segments_error he)
  · rintro _ _ ⟨e, he, rfl, rfl⟩
    exact hsettings (check_error he)

end Foundry

/-- What an action comes to is explained in the world that its run leaves. -/
theorem Explains.run {α : Type} {c : Compiler} {a : Action α} {w : World} (h : Explains c a w) :
    Explained c w (a.run w).2 (halted (a.run w).1) := by
  generalize hrun : a.run w = r
  obtain ⟨h' | x, w'⟩ := r
  · exact h.of_error hrun
  · exact h.of_ok hrun

namespace Compiler.Operation

variable {c : Compiler} {a : Arena} {w : World}

theorem join_explained (path : TypePath) (p : PendingModule) {w₁ : World} (h : Explained c w w₁ none) :
    Explained c w (join a path p w₁).2.2 (halted (join a path p w₁).1) := by
  refine h.after (by rw [join_world]) ?_
  generalize hjoin : join a path p w₁ = r
  obtain ⟨h' | answer, a', w'⟩ := r
  · obtain ⟨-, rfl, -⟩ := join_error hjoin
    rintro _ ⟨rfl⟩
    simp [Failure.kind]
  · rintro _ ⟨⟩

theorem compiled_explained {x : Action PendingModule} {next : PendingModule → World → Outcome}
    (h : Explains c x w) (hnext : ∀ p w₁, Explained c w w₁ none →
      Explained c w (next p w₁).2.2 (halted (next p w₁).1)) :
    Explained c w (compiled a (x.run w) next).2.2 (halted (compiled a (x.run w) next).1) := by
  have hrun := h.run
  generalize x.run w = r at hrun ⊢
  obtain ⟨h' | p, w'⟩ := r
  · exact hrun
  · exact hnext p w' hrun

/-- **An operation** of a compiler is explained. -/
theorem run_explained (op : Operation) :
    Explained c w (op.run c a w).2.2 (halted (op.run c a w).1) := by
  cases op with
  | compile source path => exact compiled_explained (compile_explained c a source path) fun _ _ h => h
  | commit p path => exact join_explained path p (.of_quiet rfl nofun)
  | compileAndLoad source path =>
    exact compiled_explained (compile_explained c a source path) fun p _ h => join_explained path p h
  | compileAssembly units =>
    exact compiled_explained (build_explained c a units "assembly" .assembly) fun _ _ h => h

end Compiler.Operation

/-- **What uses the compiler** comes to the halt, or to none, and takes the world to the later one: an
operation of the compiler, a request to a foundry, or the start of one. -/
inductive Uses (c : Compiler) (w : World) : World → Option Halt → Prop where
  | operation (op : Compiler.Operation) (a : Arena) :
    Uses c w (op.run c a w).2.2 (halted (op.run c a w).1)
  | request (q : Request) (f : Foundry) : f.compiler = c →
    Uses c w (q.serve (f, w)).2.2 (halted (q.serve (f, w)).1)
  | start (s : Settings) : Foundry.compilerOf s = c →
    Uses c w ((Foundry.start s).run w).2 (halted ((Foundry.start s).run w).1)

theorem Uses.explained {c : Compiler} {w w' : World} {o : Option Halt} (h : Uses c w w' o) :
    Explained c w w' o := by
  cases h with
  | operation op a => exact Compiler.Operation.run_explained op
  | request q f hc =>
    subst hc
    exact q.serve_explained f w
  | start s hc =>
    subst hc
    exact (Foundry.start_explained s).run

/-- **Failed compilations explain themselves and lose nothing.** Whatever fails as a compilation has a
diagnostic. If the crate that was handed over is rejected, it fails, and the diagnostics are those that the
lines of the output come to: one for each line that reports an error, in order, whatever bytes stand around
the line. If there are none, there is one, at no place in the file of the crate, with the output itself. -/
theorem errors_explained {c : Compiler} {w w' : World} {o : Option Halt} (h : Uses c w w' o) :
    (∀ f, o = some (.failure f) → f.kind = "CompilationError" → f.diagnostics ≠ []) ∧
    (∀ i stderr, w'.invocations = w.invocations ++ [i] → w.nextReply i = .failure stderr →
      ∃ errors, Collects (Text.lines (Text.decodeLossy stderr)) errors ∧
        (∀ errors', Collects (Text.lines (Text.decodeLossy stderr)) errors' → errors' = errors) ∧
        o = some (.failure (.compilation (if errors = []
          then [⟨c.crateFile i.crate, 0, 0, Text.trim (Text.decodeLossy stderr)⟩] else errors)))) ∧
    ∀ front back errors errors', Collects (Text.lines (Text.decodeLossy (front ++ [10]))) errors →
      Collects (Text.lines (Text.decodeLossy back)) errors' →
      Collects (Text.lines (Text.decodeLossy (front ++ 10 :: back))) (errors ++ errors') := by
  refine ⟨?_, ?_, ?_⟩
  · rintro f rfl hkind
    exact h.explained.diagnostics_ne_nil hkind
  · intro i stderr hasked hanswer
    have hcollects := reportedErrors_collects.1 (rfl : reportedErrors (Text.decodeLossy stderr) = _)
    refine ⟨_, hcollects, fun errors' h' => (reportedErrors_collects.2 h').symm, ?_⟩
    rw [h.explained.of_rejected hasked hanswer, failureDiagnostics_eq _ hcollects]
  · intro front back errors errors' hfront hback
    rw [← reportedErrors_collects] at hfront hback ⊢
    rw [reportedErrors_append, hfront, hback]

/-- A message as a list, with two places, the second of which is primary, and a line that is no message. -/
def rejectedOutput : String :=
  "[null,\"no\",\"error\",[[\"a\",1,2,false],[\"b\",3,4,true]]]\nno"

/-- The bytes of that output. -/
def rejectedBytes : List UInt8 := rejectedOutput.toList.map fun c => .ofNat c.toNat

/-- The fresh world with a toolchain that rejects every crate. -/
def World.rejecting : World :=
  { World.fresh with toolchain := ⟨fun _ => none, fun _ _ => .failure rejectedBytes⟩ }

/-- The failure of a compilation where the crate is rejected. -/
theorem errors_explained_rejecting :
    ((Compiler.Operation.compileAssembly [nodeText]).run Foundry.fresh.compiler .empty .rejecting).1 =
      .error (.failure (.compilation [⟨"b", 3, 4, "no"⟩])) := by
  have hasked : ((Compiler.Operation.compileAssembly [nodeText]).run Foundry.fresh.compiler .empty
      .rejecting).2.2.invocations.length = 1 := by
    decide +kernel
  obtain ⟨i, hi⟩ := List.length_eq_one_iff.1 hasked
  obtain ⟨-, hrejected, -⟩ := errors_explained (.operation (.compileAssembly [nodeText]) .empty)
  obtain ⟨errors, hcollects, -, ho⟩ := hrejected i _ hi rfl
  have hreported : reportedErrors (Text.decodeLossy rejectedBytes) = [⟨"b", 3, 4, "no"⟩] := by
    decide +kernel
  obtain rfl := (reportedErrors_collects.2 hcollects).symm.trans hreported
  generalize (Compiler.Operation.compileAssembly [nodeText]).run Foundry.fresh.compiler .empty .rejecting = r
    at ho ⊢
  obtain ⟨h | a, s⟩ := r
  · exact congrArg Except.error (Option.some.inj ho)
  · cases ho

end TypeFoundry
