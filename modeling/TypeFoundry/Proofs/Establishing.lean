import TypeFoundry.Proofs.Actions

/-!
# How a type is established

A type is established in four steps: its unit is compiled, saved, admitted to the arena and entered
into the registry. `build_ends`, `compile_ends` and `save_ends` say what the first two can end in.
They write the text of the crate, the staged unit and the unit, and no other file. What follows
the saving cannot fail (`find?_of_defines`), so `establish_ends` has two ends only: everything is
done, or the foundry and all units are what they were.
-/

set_option autoImplicit false

namespace TypeFoundry

open Files Files.Disk Synthesis

/-- The later world has the same toolchain, identities and current directory; identities may have
been drawn. -/
structure World.Leads (w w' : World) : Prop where
  cwd : w'.cwd = w.cwd
  toolchain : w'.toolchain = w.toolchain
  ids : w'.ids = w.ids
  drawn : w.drawn ≤ w'.drawn

namespace World.Leads

variable {w w₁ w₂ : World}

theorem refl (w : World) : w.Leads w := ⟨rfl, rfl, rfl, Nat.le_refl _⟩

theorem trans (h : w.Leads w₁) (h' : w₁.Leads w₂) : w.Leads w₂ :=
  ⟨h'.cwd.trans h.cwd, h'.toolchain.trans h.toolchain, h'.ids.trans h.ids,
    Nat.le_trans h.drawn h'.drawn⟩

/-- Operations on the disk need not be counted. -/
theorem of_operations {n : Nat} (h : World.Leads { w with operations := n } w₁) : w.Leads w₁ :=
  ⟨h.cwd, h.toolchain, h.ids, h.drawn⟩

end World.Leads

/-! ## Where units are -/

/-- The content of the file of the unit, wherever the directory of the store is. -/
def Store.unit? (s : Store) (w : World) (name : String) : Option Content :=
  w.disk.file? (place w.cwd s.root ++ [name ++ Store.ending])

/-- The location is not in the directory of the crate of the identity. -/
def OutsideCrate (id : ModuleId) (loc : Location) : Prop :=
  ∀ dir, loc.dropLast.getLast? = some dir → ¬ id.simple.toList <:+ dir.toList

/-- The location is one of units that are not in their place yet. -/
def Staged (loc : Location) : Prop := ∃ name, loc.getLast? = some name ∧ ".tmp".toList <:+ name.toList

/-- The directory of the store is not named for the identity. -/
def Store.NotNamedFor (s : Store) (w : World) (id : ModuleId) : Prop :=
  ∀ dir, (place w.cwd s.root).getLast? = some dir → ¬ id.simple.toList <:+ dir.toList

theorem length_simple (id : ModuleId) : id.simple.toList.length = 32 := by
  simp [ModuleId.simple, Text.length_hexDigits]

/-- A directory with a short name is not named for an identity. -/
theorem Store.notNamedFor_of_length {s : Store} {w : World}
    (h : ∀ dir, (place w.cwd s.root).getLast? = some dir → dir.toList.length < 32) (id : ModuleId) :
    s.NotNamedFor w id := by
  intro dir hdir hsuffix
  have hlength := hsuffix.length_le
  rw [length_simple] at hlength
  have := h dir hdir
  omega

theorem slash_not_mem_simple (id : ModuleId) : '/' ∉ id.simple.toList := by
  have hdigit : ∀ n < 16, Text.hexDigit n ≠ '/' := by decide
  have hdigits : ∀ count n, '/' ∉ Text.hexDigits count n := by
    intro count
    induction count with
    | zero => simp [Text.hexDigits]
    | succ count ih =>
      intro n
      simp only [Text.hexDigits, List.mem_append, List.mem_singleton, not_or]
      exact ⟨ih _, Ne.symm (hdigit _ (Nat.mod_lt _ (by omega)))⟩
  simpa [ModuleId.simple] using hdigits 32 id.bits.toNat

/-- The text of a crate stands in the directory of the crate. -/
theorem not_outsideCrate (cwd : Location) (buildDir label : String) (id : ModuleId) :
    ¬ OutsideCrate id (place cwd (join (join buildDir (crateName label id)) "lib.rs")) := by
  have hlib : IsFileName "lib.rs" := ⟨by decide, by decide, by decide, by decide⟩
  obtain ⟨x, hx⟩ := join_eq_append buildDir ("forge_" ++ Text.snakeCase label ++ "_") id.simple
  obtain ⟨name, hname, hsuffix⟩ := @getLast?_place cwd x _ (slash_not_mem_simple id)
    (by rw [length_simple]; omega)
  intro h
  refine h name ?_ hsuffix
  rw [place_join hlib, crateName, hx]
  simpa using hname

theorem staged_stagingPath (cwd : Location) (s : Store) (name : String) :
    Staged (place cwd (s.stagingPath name)) := by
  obtain ⟨x, hx⟩ := join_eq_append s.root ("." ++ name ++ Store.ending) ".tmp"
  rw [Store.stagingPath, hx]
  exact getLast?_place (by decide) (by decide)

/-- No unit is in a place for units that are staged. -/
theorem Staged.not_suffix {loc : Location} {name : String} (h : Staged loc)
    (hname : loc.getLast? = some name) : ¬ Store.ending.toList <:+ name.toList := by
  rintro ⟨x, hx⟩
  obtain ⟨name', hname', y, hy⟩ := h
  obtain rfl : name' = name := Option.some.inj (hname'.symm.trans hname)
  have hlast := congrArg List.getLast? (hx.trans hy.symm)
  simp [Store.ending] at hlast

theorem not_staged_unit (dir : Location) (name : String) : ¬ Staged (dir ++ [name ++ Store.ending]) := by
  intro h
  have hlast : (dir ++ [name ++ Store.ending]).getLast? = some (name ++ Store.ending) := by simp
  exact h.not_suffix hlast (by simp)

/-- Units are not among the files of a crate that the directory is not named for. -/
theorem Store.NotNamedFor.outsideCrate {s : Store} {w : World} {id : ModuleId}
    (h : s.NotNamedFor w id) (name : String) :
    OutsideCrate id (place w.cwd s.root ++ [name ++ Store.ending]) := by
  intro dir hdir
  exact h dir (by simpa using hdir)

/-! ## Compiling -/

/-- How the compilation of the units can halt, where the toolchain answers as given. -/
inductive BuildHalt (arena : Arena) (units : List String) (label : String)
    (reply : Invocation → Reply) : Halt → Prop where
  | unreadable (file : String) (position : Source.Position) :
    BuildHalt arena units label reply (.failure (.unreadable file position))
  | io (path : String) (cause : Cause) : BuildHalt arena units label reply (.failure (.io path cause))
  | unfinished : BuildHalt arena units label reply .aborted
  | toolchain (program : String) (cause : Cause) :
    BuildHalt arena units label reply (.failure (.toolchain program cause))
  | compilation (ds : List Diagnostic) :
    BuildHalt arena units label reply (.failure (.compilation ds))
  | load {targets : List Source.SourceUnit} {i : Invocation} {loaded : Loaded} {fault : LoadFault}
      (path : String) :
    units.mapM (Compiler.readTarget label) = .ok targets →
    reply i = .success loaded →
    i.text = (Compiler.crateOf targets (Compiler.references arena)).text →
    Compiler.layoutsOf loaded = .error fault →
    BuildHalt arena units label reply (.failure (.load path fault))

/-- The module was compiled from the units under the identity, where the toolchain answers as
given. -/
structure Compiled (arena : Arena) (units : List String) (label : String) (origin : Origin)
    (reply : Invocation → Reply) (id : ModuleId) (p : PendingModule) : Prop where
  id_eq : p.id = id
  origin_eq : p.origin = origin
  units_eq : p.units = units
  described : ∃ targets i loaded, units.mapM (Compiler.readTarget label) = .ok targets ∧
    reply i = .success loaded ∧
    i.text = (Compiler.crateOf targets (Compiler.references arena)).text ∧
    Compiler.layoutsOf loaded = .ok p.layouts

/-- The answer to the crate that is handed to the toolchain next. -/
def World.nextReply (w : World) : Invocation → Reply := w.toolchain.reply w.invocations.length

/-- What comes of handing over a crate. -/
theorem invoke_run (c : Compiler) (i : Invocation) (file : String) (w : World) : (c.invoke i file).run w =
    match w.toolchain.missing? c.toolchain with
    | some cause => (.error (.failure (.toolchain c.toolchain cause)), w)
    | none =>
      match w.nextReply i with
      | .failure stderr => (.error (.failure (.compilation (failureDiagnostics file stderr))),
          { w with invocations := w.invocations ++ [i] })
      | .success loaded => (.ok loaded, { w with invocations := w.invocations ++ [i] }) := by
  have hrun : (c.invoke i file).run w = (match w.toolchain.missing? c.toolchain with
      | some cause => Action.fail (.toolchain c.toolchain cause)
      | none => do
        set { w with invocations := w.invocations ++ [i] }
        match w.nextReply i with
        | .failure stderr => Action.fail (.compilation (failureDiagnostics file stderr))
        | .success loaded => return loaded : Action Loaded).run w := rfl
  rw [hrun]
  cases w.toolchain.missing? c.toolchain with
  | some cause => rfl
  | none =>
    dsimp only
    cases w.nextReply i <;> rfl

theorem invoke_ends (c : Compiler) (i : Invocation) (file : String) {w : World} :
    Ends (c.invoke i file) w
      (fun loaded w' => w.nextReply i = .success loaded ∧
        w' = { w with invocations := w.invocations ++ [i] })
      fun h w' => (∃ is, w' = { w with invocations := is }) ∧
        ((∃ program cause, h = .failure (.toolchain program cause)) ∨
          ∃ ds, h = .failure (.compilation ds)) := by
  constructor
  rw [invoke_run]
  cases w.toolchain.missing? c.toolchain with
  | some cause => exact ⟨⟨w.invocations, rfl⟩, .inl ⟨_, _, rfl⟩⟩
  | none =>
    cases hreply : w.nextReply i with
    | failure stderr => exact ⟨⟨_, rfl⟩, .inr ⟨_, rfl⟩⟩
    | success loaded => exact ⟨rfl, rfl⟩

theorem sameWorld_leads {w w' : World} (h : Action.SameWorld w w') :
    w.Leads w' ∧ w'.drawn = w.drawn ∧ w'.invocations = w.invocations ∧
      SameFiles (fun _ => True) w.disk w'.disk := by
  obtain ⟨d, n, hd, rfl⟩ := h
  exact ⟨⟨rfl, rfl, rfl, Nat.le_refl _⟩, rfl, rfl, hd⟩

/-- Texts that cannot be compiled are the only reason not to begin. -/
theorem mapM_readTarget_error {label : String} {units : List String} {f : Failure}
    (h : units.mapM (Compiler.readTarget label) = .error f) :
    ∃ file position, f = .unreadable file position := by
  induction units with
  | nil => cases h
  | cons unit units ih =>
    rw [List.mapM_cons] at h
    cases hunit : Compiler.readTarget label unit with
    | error e =>
      rw [hunit] at h
      obtain rfl := Except.error.inj h
      unfold Compiler.readTarget at hunit
      split at hunit
      · cases hunit
      · exact ⟨_, _, (Except.error.inj hunit).symm⟩
    | ok target =>
      rw [hunit] at h
      cases hrest : units.mapM (Compiler.readTarget label) with
      | error e =>
        rw [hrest] at h
        obtain rfl := Except.error.inj h
        exact ih hrest
      | ok targets =>
        rw [hrest] at h
        cases h

theorem mapM_readTarget_of_read {source : String} {unit : Source.SourceUnit}
    (h : Source.SourceUnit.read source = .ok unit) (label : String) :
    [source].mapM (Compiler.readTarget label) = .ok [unit] := by
  rw [List.mapM_cons, Compiler.readTarget, h]
  rfl

/-- **Compiling** writes no file outside the directory of the crate. -/
theorem build_ends (c : Compiler) (arena : Arena) (units : List String) (label : String)
    (origin : Origin) {w : World} :
    Ends (c.build arena units label origin) w
      (fun p w' => Compiled arena units label origin w.nextReply (w.ids w.drawn) p ∧
        w.Leads w' ∧ w'.drawn = w.drawn + 1 ∧
        SameFiles (OutsideCrate (w.ids w.drawn)) w.disk w'.disk)
      fun h w' => BuildHalt arena units label w.nextReply h ∧ w.Leads w' ∧
        SameFiles (OutsideCrate (w.ids w.drawn)) w.disk w'.disk := by
  refine (Action.ofExcept_ends _).bind ?_ ?_
  · rintro targets _ ⟨htargets, rfl⟩
    refine Action.freshId_ends.bind ?_ (fun _ _ h => h.elim)
    rintro _ _ ⟨rfl, rfl⟩
    refine (Action.ensureDirectory_ends _).bind ?_ ?_
    · rintro _ _ ⟨d, n, hd, rfl⟩
      rename_i w _
      have hd := hd.mono (Q := OutsideCrate (w.ids w.drawn)) fun _ _ => trivial
      dsimp only
      split
      · refine (ends_throw (Q := fun _ _ => False) ?_).bind (fun _ _ h => h.elim) (fun _ _ h => h)
        exact ⟨.unfinished, ⟨rfl, rfl, rfl, Nat.le_succ _⟩, hd⟩
      · -- the text of the crate is the only file that is written
        have hlib := not_outsideCrate w.cwd c.buildDir label (w.ids w.drawn)
        refine (Action.writeFile_ends _ _).bind ?_ ?_
        · rintro _ _ ⟨d', n', hwrite, rfl⟩
          have hd' := hd.trans ((sameFiles_write hwrite).of_ne hlib)
          refine (invoke_ends _ _ _).bind ?_ ?_
          · rintro loaded _ ⟨hreply, rfl⟩
            split
            · rename_i fault hfault
              exact ends_throw ⟨.load _ htargets hreply rfl hfault, ⟨rfl, rfl, rfl, Nat.le_succ _⟩, hd'⟩
            · rename_i layouts hlayouts
              exact ends_pure ⟨⟨rfl, rfl, rfl, targets, _, loaded, htargets, hreply, rfl, hlayouts⟩,
                ⟨rfl, rfl, rfl, Nat.le_succ _⟩, rfl, hd'⟩
          · rintro h _ ⟨⟨is, rfl⟩, ⟨program, cause, rfl⟩ | ⟨ds, rfl⟩⟩
            · exact ⟨.toolchain _ _, ⟨rfl, rfl, rfl, Nat.le_succ _⟩, hd'⟩
            · exact ⟨.compilation _, ⟨rfl, rfl, rfl, Nat.le_succ _⟩, hd'⟩
        · rintro h _ ⟨d', n', c, rfl, hd', rfl⟩
          exact ⟨.io _ _, ⟨rfl, rfl, rfl, Nat.le_succ _⟩,
            hd.trans (hd'.of_ne hlib)⟩
    · rintro h _ ⟨⟨d, n, hd, rfl⟩, c, rfl⟩
      exact ⟨.io _ _, ⟨rfl, rfl, rfl, Nat.le_succ _⟩, hd.mono fun _ _ => trivial⟩
  · rintro h w' ⟨f, hf, rfl, rfl⟩
    obtain ⟨file, position, rfl⟩ := mapM_readTarget_error hf
    exact ⟨.unreadable _ _, World.Leads.refl _, SameFiles.refl _ _⟩

/-- How the compilation of a type can halt: as any compilation, or because the module does not
describe the type. -/
def CompileHalt (arena : Arena) (source : String) (path : TypePath) (reply : Invocation → Reply)
    (h : Halt) : Prop :=
  BuildHalt arena [source] path.name reply h ∨ ∃ id p,
    Compiled arena [source] path.name .dynamic reply id p ∧ p.defines path = false ∧
      h = .failure (.typeNotFound path id)

theorem compile_ends (c : Compiler) (arena : Arena) (source : String) (path : TypePath) {w : World} :
    Ends (c.compile arena source path) w
      (fun p w' => Compiled arena [source] path.name .dynamic w.nextReply (w.ids w.drawn) p ∧
        p.defines path = true ∧ w.Leads w' ∧ w'.drawn = w.drawn + 1 ∧
        SameFiles (OutsideCrate (w.ids w.drawn)) w.disk w'.disk)
      fun h w' => CompileHalt arena source path w.nextReply h ∧ w.Leads w' ∧
        SameFiles (OutsideCrate (w.ids w.drawn)) w.disk w'.disk := by
  refine (build_ends c arena [source] path.name .dynamic).bind ?_ fun h w' hh => ⟨.inl hh.1, hh.2⟩
  rintro p w' ⟨hp, hw, hdrawn, hd⟩
  split
  · rename_i hdefines
    exact ends_pure ⟨hp, hdefines, hw, hdrawn, hd⟩
  · rename_i hdefines
    refine ends_throw ⟨.inr ⟨_, p, hp, by simpa using hdefines, ?_⟩, hw, hd⟩
    rw [hp.id_eq]

/-- **Saving** writes the unit beside its place and puts it there; if it fails it was not put there. -/
theorem save_ends (s : Store) (name source : String) {w : World} :
    Ends (s.save name source) w
      (fun file w' => file = s.path name ∧ w.Leads w' ∧ w'.drawn = w.drawn ∧
        w'.disk.file? (place w.cwd (s.path name)) = some (.text source) ∧
        SameFiles (fun loc => ¬ Staged loc ∧ loc ≠ place w.cwd (s.path name)) w.disk w'.disk)
      fun h w' => (∃ path cause, h = .failure (.io path cause)) ∧ w.Leads w' ∧
        SameFiles (fun loc => ¬ Staged loc) w.disk w'.disk := by
  have hstaged := staged_stagingPath w.cwd s name
  refine (Action.ensureDirectory_ends _).bind ?_ ?_
  · rintro _ _ ⟨d, n, hd, rfl⟩
    have hd := hd.mono (Q := fun loc => ¬ Staged loc) fun _ _ => trivial
    refine (Action.writeFile_ends _ _).bind ?_ ?_
    · rintro _ _ ⟨d', n', hwrite, rfl⟩
      have hd' := hd.trans ((sameFiles_write hwrite).of_ne (not_not.2 hstaged))
      refine (Action.renameFile_ends _ _).bind ?_ ?_
      · rintro _ _ ⟨d'', n'', hrename, rfl⟩
        obtain ⟨content, hcontent, hfiles⟩ := file?_rename hrename
        have htext : content = .text source := by
          have := file?_write hwrite (place w.cwd (s.stagingPath name))
          rw [if_pos rfl] at this
          exact Option.some.inj (hcontent.symm.trans this)
        refine ends_pure ⟨rfl, ⟨rfl, rfl, rfl, Nat.le_refl _⟩, rfl, ?_, ?_⟩
        · have := hfiles (place w.cwd (s.path name))
          rwa [if_pos rfl, htext] at this
        · rintro loc ⟨hloc, hne⟩
          have := hfiles loc
          have hplace : loc ≠ place w.cwd (s.stagingPath name) := fun he => hloc (he ▸ hstaged)
          rw [if_neg hne, if_neg hplace] at this
          exact this.trans (hd' loc hloc)
      · rintro h _ ⟨n'', c, rfl, rfl⟩
        exact ⟨⟨_, _, rfl⟩, ⟨rfl, rfl, rfl, Nat.le_refl _⟩, hd'⟩
    · rintro h _ ⟨d', n', c, rfl, hd', rfl⟩
      exact ⟨⟨_, _, rfl⟩, ⟨rfl, rfl, rfl, Nat.le_refl _⟩,
        hd.trans (hd'.of_ne (not_not.2 hstaged))⟩
  · rintro h _ ⟨⟨d, n, hd, rfl⟩, c, rfl⟩
    exact ⟨⟨_, _, rfl⟩, ⟨rfl, rfl, rfl, Nat.le_refl _⟩, hd.mono fun _ _ => trivial⟩

/-! ## Establishing a type -/

/-- A module that describes the type has a handle for it. -/
theorem find?_of_defines {p : PendingModule} {path : TypePath} (h : p.defines path = true)
    (generation : Nat) : ∃ handle, (p.load generation).find? path = some handle := by
  rw [← Option.isSome_iff_exists, LoadedModule.find?, List.find?_isSome]
  obtain ⟨layout, hlayout, hpath⟩ := List.any_eq_true.1 h
  exact ⟨⟨layout, ⟨p.id, generation, p.origin⟩⟩, List.mem_map_of_mem hlayout, hpath⟩

/-- A module that describes the type joins with it. -/
theorem commit_of_defines {p : PendingModule} {path : TypePath} (h : p.defines path = true)
    (arena : Arena) : ∃ handle, (arena.next p).find? path = some handle ∧
      arena.commit p path = (.ok handle, arena.push p) := by
  obtain ⟨handle, hhandle⟩ := find?_of_defines h (arena.size + 1)
  exact ⟨handle, hhandle, by rw [Arena.commit, Arena.next, hhandle]⟩

/-- The handle that is found in a module that joins is one of its types, of that full name. -/
theorem handle_of_find? {arena : Arena} {p : PendingModule} {path : TypePath} {handle : TypeHandle}
    (h : (arena.next p).find? path = some handle) :
    handle ∈ (arena.next p).types ∧ handle.path = path ∧ handle.module = (arena.next p).info ∧
      handle.layout ∈ p.layouts := by
  have hmem : handle ∈ (arena.next p).types := List.mem_of_find?_eq_some h
  have hpath : handle.path = path := by simpa using List.find?_some h
  obtain ⟨layout, hlayout, rfl⟩ := List.mem_map.1 hmem
  exact ⟨hmem, hpath, rfl, hlayout⟩

/-- The type is established: the module of its unit is admitted, and its handle is registered. -/
structure Established (f : Foundry) (w : World) (name source : String) (path : TypePath)
    (f' : Foundry) (w' : World) : Prop where
  leads : w.Leads w'
  drawn : w'.drawn = w.drawn + 1
  stored : w'.disk.file? (place w.cwd (f.store.path name)) = some (.text source)
  others : SameFiles (fun loc => OutsideCrate (w.ids w.drawn) loc ∧ ¬ Staged loc ∧
    loc ≠ place w.cwd (f.store.path name)) w.disk w'.disk
  admitted : ∃ p handle,
    Compiled f.arena [source] path.name .dynamic w.nextReply (w.ids w.drawn) p ∧
    (f.arena.next p).find? path = some handle ∧
    f' = { f with arena := f.arena.push p, catalog := (f.catalog.register handle).2 }

/-- How establishing a type can halt: where it is compiled, or because of the disk. -/
def EstablishHalt (f : Foundry) (source : String) (path : TypePath) (reply : Invocation → Reply)
    (h : Halt) : Prop :=
  CompileHalt f.arena source path reply h ∨ ∃ file cause, h = .failure (.io file cause)

theorem ofAction_ends {α : Type} {a : Action α} {f : Foundry} {w : World}
    {Q : α → World → Prop} {E : Halt → World → Prop} (h : Ends a w Q E) :
    Ends (Step.ofAction a) (f, w) (fun x s => ∃ w', s = (f, w') ∧ Q x w')
      fun e s => ∃ w', s = (f, w') ∧ E e w' := by
  have hrun : (Step.ofAction a).run (f, w) = ((a.run w).1, (f, (a.run w).2)) := rfl
  have hholds := h.holds
  constructor
  rw [hrun]
  split at hholds
  · rename_i x w' ha
    rw [ha]
    exact ⟨w', rfl, hholds⟩
  · rename_i e w' ha
    rw [ha]
    exact ⟨w', rfl, hholds⟩

theorem foundry_ends {f : Foundry} {w : World} {E : Halt → Foundry × World → Prop} :
    Ends Step.foundry (f, w) (fun g s => g = f ∧ s = (f, w)) E := ⟨⟨rfl, rfl⟩⟩

theorem put_ends (g : Foundry) {f : Foundry} {w : World} {E : Halt → Foundry × World → Prop} :
    Ends (Step.put g) (f, w) (fun _ s => s = (g, w)) E := ⟨rfl⟩

/-- **Establishing a type** succeeds as a whole, or it changes neither the foundry nor a unit. -/
theorem establish_ends (name source : String) (path : TypePath) {f : Foundry} {w : World} :
    Ends (Foundry.establish name source path) (f, w)
      (fun file s => file = f.store.path name ∧ Established f w name source path s.1 s.2)
      fun h s => ∃ w', s = (f, w') ∧ EstablishHalt f source path w.nextReply h ∧ w.Leads w' ∧
        SameFiles (fun loc => OutsideCrate (w.ids w.drawn) loc ∧ ¬ Staged loc) w.disk w'.disk := by
  refine foundry_ends.bind ?_ (fun _ _ h => h)
  rintro _ _ ⟨rfl, rfl⟩
  rename_i f
  refine (ofAction_ends (compile_ends _ _ _ _)).bind ?_ ?_
  · rintro p _ ⟨w₁, rfl, hp, hdefines, hw₁, hdrawn₁, hd₁⟩
    refine (ofAction_ends (save_ends _ _ _)).bind ?_ ?_
    · rintro file _ ⟨w₂, rfl, rfl, hw₂, hdrawn₂, hstored, hd₂⟩
      -- the type was looked for before the unit was saved, so it is found now
      obtain ⟨handle, hhandle, hcommit⟩ := commit_of_defines hdefines f.arena
      rw [hcommit]
      refine (put_ends _).bind ?_ (fun _ _ h => h)
      rintro _ _ rfl
      refine (ofAction_ends (Action.ofExcept_ends (.ok handle))).bind ?_ ?_
      · rintro _ _ ⟨_, rfl, hok, rfl⟩
        obtain rfl := Except.ok.inj hok
        refine (put_ends _).bind ?_ (fun _ _ h => h)
        rintro _ _ rfl
        rw [hw₁.cwd] at hstored hd₂
        exact ends_pure ⟨rfl, hw₁.trans hw₂, hdrawn₂.trans hdrawn₁, hstored,
          (hd₁.mono fun _ h => h.1).trans (hd₂.mono fun _ h => h.2), p, handle, hp, hhandle, rfl⟩
      · rintro _ _ ⟨_, _, _, herror, _⟩
        cases herror
    · rintro h _ ⟨w₂, rfl, hh, hw₂, hd₂⟩
      refine ⟨w₂, rfl, .inr hh, hw₁.trans hw₂, ?_⟩
      exact (hd₁.mono fun _ h => h.1).trans (hd₂.mono fun _ h => h.2)
  · rintro h _ ⟨w₁, rfl, hh, hw₁, hd₁⟩
    exact ⟨w₁, rfl, .inl hh, hw₁, hd₁.mono fun _ h => h.1⟩

end TypeFoundry
