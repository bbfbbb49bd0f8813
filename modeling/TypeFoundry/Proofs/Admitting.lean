import TypeFoundry.Proofs.Closure

/-!
# What the arena takes in

Four operations of a compiler are about an arena: to compile a unit, to commit a module that was
compiled, to do both, and to compile units into one module. An operation that fails leaves the arena as
it was, unless it commits a module that does not define the type that it is asked for: that module stays
(`Operation.run_error`), and so its units are references from then on. Over a whole run of operations
these modules and those of the operations that succeed are all that joins (`runAll_units`).
-/

set_option autoImplicit false

namespace TypeFoundry.Compiler

open Source

/-- What a compiler is asked to do with an arena. -/
inductive Operation where
  | compile (source : String) (path : TypePath)
  | commit (pending : PendingModule) (path : TypePath)
  | compileAndLoad (source : String) (path : TypePath)
  | compileAssembly (units : List String)

/-- What comes of an operation. -/
inductive Answer where
  | pending (p : PendingModule)
  | handle (h : TypeHandle)
  | module (m : LoadedModule)

namespace Operation

/-- The answer to an operation, with the arena and the world that it leaves. -/
abbrev Outcome := Except Halt Answer × Arena × World

/-- Goes on with the module that was compiled; if none was, the arena is left alone. -/
def compiled (a : Arena) (r : Except Halt PendingModule × World)
    (next : PendingModule → World → Outcome) : Outcome :=
  match r with
  | (.ok p, w) => next p w
  | (.error h, w) => (.error h, a, w)

/-- The pending module joins the arena. -/
def join (a : Arena) (path : TypePath) (p : PendingModule) (w : World) : Outcome :=
  match a.commit p path with
  | (.ok h, a) => (.ok (.handle h), a, w)
  | (.error f, a) => (.error (.failure f), a, w)

/-- Carries out the operation. -/
def run (c : Compiler) (a : Arena) (w : World) : Operation → Outcome
  | .compile source path =>
    compiled a ((c.compile a source path).run w) fun p w => (.ok (.pending p), a, w)
  | .commit p path => join a path p w
  | .compileAndLoad source path => compiled a ((c.compile a source path).run w) (join a path)
  | .compileAssembly units =>
    compiled a ((c.compileAssembly a units).run w) fun p w => (.ok (.module (a.next p)), a.push p, w)

/-- The operation commits a module that does not define the type that it is asked for. -/
def Misdirected : Operation → Prop
  | .commit p path => p.defines path = false
  | _ => False

section

variable {a a' : Arena} {w w' : World} {p : PendingModule} {path : TypePath} {h : Halt}

theorem compiled_error {r : Except Halt PendingModule × World} {next : PendingModule → World → Outcome}
    (hrun : compiled a r next = (.error h, a', w')) :
    a' = a ∨ ∃ p w, r = (.ok p, w) ∧ next p w = (.error h, a', w') := by
  obtain ⟨_ | p, w⟩ := r
  · cases hrun
    exact .inl rfl
  · exact .inr ⟨p, w, rfl, hrun⟩

theorem join_of_defines (hdefines : p.defines path = true) :
    ∃ handle, join a path p w = (.ok (.handle handle), a.push p, w) := by
  obtain ⟨handle, -, hcommit⟩ := commit_of_defines hdefines a
  exact ⟨handle, by rw [join, hcommit]⟩

/-- A module without the type joins all the same. -/
theorem join_of_not_defines (hdefines : p.defines path = false) :
    join a path p w = (.error (.failure (.typeNotFound path p.id)), a.push p, w) := by
  have hnone : (a.next p).find? path = none := by
    rw [LoadedModule.find?, List.find?_eq_none, Arena.next, PendingModule.load]
    intro handle hhandle
    obtain ⟨layout, hlayout, rfl⟩ := List.mem_map.1 hhandle
    exact List.any_eq_false.1 hdefines layout hlayout
  rw [join, Arena.commit, hnone]

theorem join_error (hrun : join a path p w = (.error h, a', w')) :
    p.defines path = false ∧ h = .failure (.typeNotFound path p.id) ∧ a' = a.push p := by
  cases hdefines : p.defines path with
  | true =>
    obtain ⟨handle, hjoin⟩ := @join_of_defines a w p path hdefines
    cases hjoin.symm.trans hrun
  | false =>
    cases (join_of_not_defines hdefines).symm.trans hrun
    exact ⟨rfl, rfl, rfl⟩

variable {c : Compiler} {op : Operation}

/-- **An operation that fails** leaves the modules of the arena as they were just if it does not commit
a module that lacks the type. Such a commit fails because the type is missing, but the module has joined
the arena, and the units that it was compiled from are references to all later compilations. -/
theorem run_error (hrun : op.run c a w = (.error h, a', w')) :
    (a'.modules = a.modules ↔ ¬ op.Misdirected) ∧
    (op.Misdirected → ∃ p path, op = .commit p path ∧ h = .failure (.typeNotFound path p.id) ∧
      a' = a.push p ∧ references a' = references a ++ p.units.filterMap SourceUnit.read?) := by
  by_cases hop : op.Misdirected
  · obtain ⟨p, path, rfl⟩ : ∃ p path, op = .commit p path := by
      cases op with
      | commit p path => exact ⟨p, path, rfl⟩
      | _ => exact hop.elim
    obtain ⟨-, rfl, rfl⟩ := join_error hrun
    refine ⟨iff_of_false ?_ (not_not.2 hop), fun _ => ?_⟩
    · simp [Arena.push]
    · exact ⟨p, path, rfl, rfl, rfl, references_push a p⟩
  · refine ⟨iff_of_true ?_ hop, fun h => absurd h hop⟩
    cases op with
    | commit p path => exact absurd (join_error hrun).1 hop
    | compile source path =>
      obtain rfl | ⟨p, w₁, -, hnext⟩ := compiled_error hrun
      · rfl
      · cases hnext
    | compileAndLoad source path =>
      obtain rfl | ⟨p, w₁, hcompile, hnext⟩ := compiled_error hrun
      · rfl
      · -- the module that was compiled defines the type, so it cannot fail to join
        have hdefines := ((compile_ends c a source path).of_ok hcompile).2.1
        exact absurd (join_error hnext).1 (by simp [hdefines])
    | compileAssembly units =>
      obtain rfl | ⟨p, w₁, -, hnext⟩ := compiled_error hrun
      · rfl
      · cases hnext

end

/-- A unit that is compiled for another type than its own does not join. -/
theorem run_error_other : ∃ h a' w',
    (Operation.compileAndLoad nodeText ⟨[], "U"⟩).run Foundry.fresh.compiler .empty .planted =
      (.error h, a', w') ∧ a'.modules = [] := by
  have herror : ((Operation.compileAndLoad nodeText ⟨[], "U"⟩).run Foundry.fresh.compiler .empty
      .planted).1.toOption.isSome = false := by decide +kernel
  generalize hrun : (Operation.compileAndLoad nodeText ⟨[], "U"⟩).run Foundry.fresh.compiler .empty
    .planted = r at herror
  obtain ⟨h | answer, a', w'⟩ := r
  · exact ⟨h, a', w', rfl, (run_error hrun).1.2 not_false⟩
  · cases herror

/-- **A module without the type that is asked for** becomes a reference. What was compiled for one type
and is committed for another is refused, and is in the arena. -/
theorem refused_joins : ∃ p w a',
    (Operation.compile nodeText ⟨[], "T"⟩).run Foundry.fresh.compiler .empty .planted =
      (.ok (.pending p), .empty, w) ∧
    (Operation.commit p ⟨[], "U"⟩).run Foundry.fresh.compiler .empty w =
      (.error (.failure (.typeNotFound ⟨[], "U"⟩ p.id)), a', w) ∧
    a'.modules ≠ Arena.empty.modules ∧ references a' ≠ references Arena.empty := by
  have hcompiled : ((Foundry.fresh.compiler.compile .empty nodeText ⟨[], "T"⟩).run
      .planted).1.toOption.map (fun p => (p.defines ⟨[], "U"⟩, p.units)) = some (false, [nodeText]) := by
    decide +kernel
  generalize hrun : (Foundry.fresh.compiler.compile .empty nodeText ⟨[], "T"⟩).run .planted = r
    at hcompiled
  obtain ⟨h | p, w⟩ := r
  · cases hcompiled
  obtain ⟨hdefines, hunits⟩ := Prod.mk.inj (Option.some.inj hcompiled)
  refine ⟨p, w, Arena.empty.push p, ?_, join_of_not_defines hdefines, ?_, ?_⟩
  · rw [run, hrun]
    rfl
  · simp [Arena.push]
  · obtain ⟨u, hread, -⟩ := nodeText_read
    rw [references_push, hunits, List.filterMap_cons_some (read?_eq_some.2 hread)]
    simp

/-! ## Runs of operations -/

/-- The units that the operation adds to those of the arena, if it has that answer. -/
def adds : Operation → Except Halt Answer → List String
  | .commit p _, _ => p.units
  | .compileAndLoad source _, .ok _ => [source]
  | .compileAssembly units, .ok _ => units
  | _, _ => []

/-- Carries out one operation after the other. -/
def runAll (c : Compiler) (a : Arena) (w : World) : List Operation → List (Except Halt Answer) × Arena × World
  | [] => ([], a, w)
  | op :: ops =>
    let (r, a, w) := op.run c a w
    let (rs, a, w) := runAll c a w ops
    (r :: rs, a, w)

section

variable {c : Compiler} {a : Arena} {w : World}

theorem units_push (a : Arena) (p : PendingModule) : (a.push p).units = a.units ++ p.units := by
  simp [Arena.units, Arena.push, Arena.next, PendingModule.load]

theorem units_join (path : TypePath) (p : PendingModule) :
    (join a path p w).2.1.units = a.units ++ p.units := by
  rw [← units_push]
  cases hdefines : p.defines path with
  | true =>
    obtain ⟨handle, hjoin⟩ := @join_of_defines a w p path hdefines
    rw [hjoin]
  | false => rw [join_of_not_defines hdefines]

/-- **An operation adds** the units of the module that it makes part of the arena. -/
theorem run_units (op : Operation) :
    (op.run c a w).2.1.units = a.units ++ op.adds (op.run c a w).1 := by
  cases op with
  | commit p path => exact units_join path p
  | compile source path =>
    rw [run]
    generalize (c.compile a source path).run w = r
    obtain ⟨_ | p, w₁⟩ := r <;> exact (List.append_nil _).symm
  | compileAndLoad source path =>
    rw [run]
    generalize hcompile : (c.compile a source path).run w = r
    obtain ⟨h | p, w₁⟩ := r
    · exact (List.append_nil _).symm
    · obtain ⟨hp, hdefines, -⟩ := (compile_ends c a source path).of_ok hcompile
      obtain ⟨handle, hjoin⟩ := @join_of_defines a w₁ p path hdefines
      rw [compiled, hjoin, units_push, hp.units_eq]
      rfl
  | compileAssembly units =>
    rw [run]
    generalize hcompile : (c.compileAssembly a units).run w = r
    obtain ⟨h | p, w₁⟩ := r
    · exact (List.append_nil _).symm
    · obtain ⟨hp, -⟩ := (build_ends c a units "assembly" .assembly).of_ok hcompile
      rw [compiled, units_push, hp.units_eq]
      rfl

/-- **The references of a compilation** are the units of the modules that were committed and those of
the operations that succeeded, in order. -/
theorem runAll_units (ops : List Operation) :
    (runAll c a w ops).2.1.units = a.units ++
      (ops.zip (runAll c a w ops).1).flatMap fun (op, r) => op.adds r := by
  induction ops generalizing a w with
  | nil => simp [runAll]
  | cons op ops ih =>
    rw [runAll, ih, run_units, List.append_assoc]
    rfl

end

end Operation

end TypeFoundry.Compiler
