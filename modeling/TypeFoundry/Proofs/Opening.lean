import TypeFoundry.Proofs.Establishing

/-!
# How a foundry is opened

Opening reads the stored units and compiles those that can be read into one module. `start_ends` says
what an open foundry starts with: nothing, or that one module, whose types make up the manifest.
-/

set_option autoImplicit false

namespace TypeFoundry

open Files Files.Disk

namespace Foundry

variable {w : World}

/-- Only operations on the disk were counted. -/
def Counted (w w' : World) : Prop := ∃ n, w' = { w with operations := n }

theorem Counted.refl (w : World) : Counted w w := ⟨w.operations, rfl⟩

theorem Counted.trans {w₁ w₂ : World} (h : Counted w w₁) (h' : Counted w₁ w₂) : Counted w w₂ := by
  obtain ⟨n, rfl⟩ := h
  obtain ⟨n', rfl⟩ := h'
  exact ⟨n', rfl⟩

/-- Something on the disk could not be read. -/
def Unread (h : Halt) : Prop := ∃ path cause, h = .failure (.io path cause)

theorem unitsIn_ends (dir : String) :
    Ends (Store.unitsIn dir) w (fun _ w' => Counted w w') fun h w' => Unread h ∧ Counted w w' := by
  refine (Action.look_ends _).bind ?_ (fun _ _ h => h.elim)
  rintro r _ ⟨-, n, rfl⟩
  cases r with
  | ok files => exact ⟨⟨n, rfl⟩⟩
  | error cause =>
    dsimp only
    split
    · exact ends_pure ⟨n, rfl⟩
    · exact ends_throw ⟨⟨_, _, rfl⟩, n, rfl⟩

theorem atPath_ends {α : Type} (path : String) (r : Except Cause α) :
    Ends (Action.atPath path r) w (fun _ w' => w' = w) fun h w' => Unread h ∧ w' = w := by
  cases r with
  | ok a => exact ends_pure rfl
  | error cause => exact ends_throw ⟨⟨_, _, rfl⟩, rfl⟩

/-- All units that are kept can be read. -/
def AllReadable (units : List String) : Prop := ∀ u ∈ units, (Source.SourceUnit.read? u).isSome = true

theorem readUnits_ends (files : List (String × String)) :
    Ends (readUnits files) w (fun units w' => AllReadable units ∧ Counted w w')
      fun h w' => Unread h ∧ Counted w w' := by
  induction files generalizing w with
  | nil => exact ends_pure ⟨by simp [AllReadable], Counted.refl w⟩
  | cons entry files ih =>
    obtain ⟨name, file⟩ := entry
    refine (Action.look_ends _).bind ?_ (fun _ _ h => h.elim)
    rintro r _ ⟨-, n, rfl⟩
    refine (atPath_ends _ _).bind ?_ fun h w' hh => ⟨hh.1, n, hh.2⟩
    rintro source _ rfl
    refine ih.bind ?_ fun h w' hh => ⟨hh.1, Counted.trans ⟨n, rfl⟩ hh.2⟩
    rintro others w' ⟨hothers, hw'⟩
    have hcounted := Counted.trans ⟨n, rfl⟩ hw'
    split
    · rename_i hsource
      exact ends_pure ⟨List.forall_mem_cons.2 ⟨hsource, hothers⟩, hcounted⟩
    · exact ends_pure ⟨hothers, hcounted⟩

theorem storedUnits_ends (dirs : List String) :
    Ends (storedUnits dirs) w (fun units w' => AllReadable units ∧ Counted w w')
      fun h w' => Unread h ∧ Counted w w' := by
  induction dirs generalizing w with
  | nil => exact ends_pure ⟨by simp [AllReadable], Counted.refl w⟩
  | cons dir dirs ih =>
    refine (unitsIn_ends dir).bind ?_ (fun _ _ h => h)
    intro files w₁ h₁
    refine (readUnits_ends files).bind ?_ fun h w' hh => ⟨hh.1, h₁.trans hh.2⟩
    rintro units w₂ ⟨hunits, h₂⟩
    refine ih.bind ?_ fun h w' hh => ⟨hh.1, (h₁.trans h₂).trans hh.2⟩
    rintro others w₃ ⟨hothers, h₃⟩
    refine ends_pure ⟨?_, (h₁.trans h₂).trans h₃⟩
    exact List.forall_mem_append.2 ⟨hunits, hothers⟩

/-- Opening compiles the units: those that are stored in the directories of the settings, if there are
any and they are to be compiled. -/
structure Preloads (s : Settings) (w : World) (units : List String) : Prop where
  enabled : s.preload = true
  run_eq : ∃ w', (storedUnits (s.sourceDir :: s.staticDirs)).run w = (.ok units, w')
  nonempty : units ≠ []
  readable : AllReadable units

theorem Preloads.units_eq {s : Settings} {w : World} {units stored : List String}
    (h : Preloads s w units)
    (hstored : ((storedUnits (s.sourceDir :: s.staticDirs)).run w).1 = .ok stored) :
    units = stored := by
  obtain ⟨w', hrun⟩ := h.run_eq
  rw [hrun] at hstored
  exact Except.ok.inj hstored

/-- What a foundry starts with: no module, or one with the units that were stored. -/
inductive Started (s : Settings) (w : World) (f : Foundry) : Prop where
  | empty : f.arena = .empty → f.catalog = .empty → Started s w f
  | preloaded {units : List String} {p : PendingModule} :
    Preloads s w units →
    Compiled .empty units "assembly" .assembly w.nextReply (w.ids w.drawn) p →
    f.arena = Arena.empty.push p → f.catalog = Catalog.empty.extend (Arena.empty.next p).types →
    Started s w f

/-- How opening a foundry can halt. -/
inductive StartHalt (s : Settings) (w : World) : Halt → Prop where
  | settings (fault : SettingsFault) : StartHalt s w (.failure (.settings fault))
  | unread {h : Halt} : Unread h → StartHalt s w h
  | build {units : List String} {h : Halt} : Preloads s w units →
    BuildHalt .empty units "assembly" w.nextReply h → StartHalt s w h

theorem preload_ends (f : Foundry) {s : Settings} (hs : s.preload = true)
    (hf : f.arena = .empty ∧ f.catalog = .empty) :
    Ends (f.preload s) w
      (fun f' w' => f'.store = f.store ∧ f'.modules = f.modules ∧ Started s w f' ∧ w.Leads w' ∧
        SameFiles (OutsideCrate (w.ids w.drawn)) w.disk w'.disk)
      fun h w' => StartHalt s w h ∧ w.Leads w' ∧
        SameFiles (OutsideCrate (w.ids w.drawn)) w.disk w'.disk := by
  refine (storedUnits_ends _).of_run.bind ?_ ?_
  · rintro units _ ⟨hrun, hreadable, n, rfl⟩
    split
    · exact ends_pure ⟨rfl, rfl, .empty hf.1 hf.2, ⟨rfl, rfl, rfl, Nat.le_refl _⟩, SameFiles.refl _ _⟩
    · rename_i hne
      have hunits : Preloads s w units := ⟨hs, ⟨_, hrun⟩, by simpa using hne, hreadable⟩
      refine (build_ends _ _ _ _ _).bind ?_ ?_
      · rintro p w' ⟨hp, hw, -, hd⟩
        rw [hf.1] at hp
        refine ends_pure ⟨rfl, rfl, .preloaded hunits hp ?_ ?_,
          hw.of_operations, hd⟩
        · rw [hf.1]
        · rw [hf.1, hf.2]
      · rintro h w' ⟨hh, hw, hd⟩
        rw [hf.1] at hh
        exact ⟨.build hunits hh, hw.of_operations, hd⟩
  · rintro h _ ⟨hh, n, rfl⟩
    exact ⟨.unread hh, ⟨rfl, rfl, rfl, Nat.le_refl _⟩, SameFiles.refl _ _⟩

theorem segments_error {text : String} {f : Failure} (h : Namespace.segments text = .error f) :
    ∃ fault, f = .settings fault := by
  unfold Namespace.segments at h
  split at h
  · cases h
  · exact ⟨_, (Except.error.inj h).symm⟩

theorem check_error {s : Settings} {f : Failure} (h : s.check = .error f) :
    ∃ fault, f = .settings fault := by
  unfold Settings.check at h
  cases hs : s.segments with
  | error e =>
    rw [hs] at h
    obtain rfl := Except.error.inj h
    exact segments_error hs
  | ok modules =>
    rw [hs] at h
    simp only [bind, Except.bind] at h
    split at h
    · exact ⟨_, (Except.error.inj h).symm⟩
    · cases h

/-- **Opening a foundry** leaves it with what it starts with, or halts. -/
theorem start_ends (s : Settings) :
    Ends (start s) w
      (fun f w' => f.store = ⟨s.sourceDir⟩ ∧ s.segments = .ok f.modules ∧ Started s w f ∧ w.Leads w' ∧
        SameFiles (OutsideCrate (w.ids w.drawn)) w.disk w'.disk)
      fun h w' => StartHalt s w h ∧ w.Leads w' ∧
        SameFiles (OutsideCrate (w.ids w.drawn)) w.disk w'.disk := by
  refine (Action.ofExcept_ends _).bind ?_ ?_
  · rintro _ _ ⟨-, rfl⟩
    rename_i w
    refine (Action.ofExcept_ends _).bind ?_ ?_
    · rintro modules _ ⟨hmodules, rfl⟩
      rename_i w
      dsimp only
      split
      · rename_i hs
        refine (preload_ends _ hs ⟨rfl, rfl⟩).mono ?_ fun _ _ h => h
        rintro f w' ⟨hstore, hf, h⟩
        exact ⟨hstore, hf ▸ hmodules, h⟩
      · exact ends_pure ⟨rfl, hmodules, .empty rfl rfl, World.Leads.refl w, SameFiles.refl _ _⟩
    · rintro h _ ⟨e, he, rfl, rfl⟩
      obtain ⟨fault, rfl⟩ := segments_error he
      exact ⟨.settings fault, World.Leads.refl _, SameFiles.refl _ _⟩
  · rintro h _ ⟨e, he, rfl, rfl⟩
    obtain ⟨fault, rfl⟩ := check_error he
    exact ⟨.settings fault, World.Leads.refl _, SameFiles.refl _ _⟩

end Foundry

end TypeFoundry
