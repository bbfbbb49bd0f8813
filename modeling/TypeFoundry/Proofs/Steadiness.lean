import TypeFoundry.Proofs.Directories
import TypeFoundry.Proofs.Written

/-!
# Directories under actions

Nothing that a foundry does removes a directory or makes a solid disk one that is not (`World.Evolves`):
each action is `Steady`, opening a foundry included (`Steady.start`), and so is serving a request
(`serve_evolves`). After a request that succeeded, the path of the unit leads to its file
(`serve_reaches`), and does so from then on (`Store.Reaches.evolves`).
-/

set_option autoImplicit false

namespace TypeFoundry

open Files Files.Disk Synthesis

/-- The later world has the same current directory and meets the same obstacles. If the disk was solid,
it still is, with all its directories. -/
structure World.Evolves (w w' : World) : Prop where
  cwd : w'.cwd = w.cwd
  obstacles : w'.obstacles = w.obstacles
  disk : w.disk.Solid w.cwd → w'.disk.Solid w.cwd ∧ w.disk.Grows w'.disk

namespace World.Evolves

variable {w w₁ w₂ : World}

theorem refl (w : World) : w.Evolves w := ⟨rfl, rfl, fun h => ⟨h, Grows.refl _⟩⟩

theorem trans (h : w.Evolves w₁) (h' : w₁.Evolves w₂) : w.Evolves w₂ := by
  refine ⟨h'.cwd.trans h.cwd, h'.obstacles.trans h.obstacles, fun hsolid => ?_⟩
  obtain ⟨hsolid₁, hgrows₁⟩ := h.disk hsolid
  obtain ⟨hsolid₂, hgrows₂⟩ := h'.disk (h.cwd ▸ hsolid₁)
  exact ⟨h.cwd ▸ hsolid₂, hgrows₁.trans hgrows₂⟩

/-- Only the disk and the count of operations differ. -/
theorem of_disk {d : Disk} {n : Nat}
    (h : w.disk.Solid w.cwd → d.Solid w.cwd ∧ w.disk.Grows d) :
    w.Evolves { w with disk := d, operations := n } := ⟨rfl, rfl, h⟩

end World.Evolves

/-- However the action ends, the world has evolved. -/
def Steady {α : Type} (a : Action α) : Prop :=
  ∀ w, Ends a w (fun _ w' => w.Evolves w') fun _ w' => w.Evolves w'

namespace Steady

variable {α β : Type} {a : Action α}

theorem evolves (h : Steady a) {w w' : World} {r : Except Halt α} (hrun : a.run w = (r, w')) :
    w.Evolves w' := by
  cases r with
  | ok x => exact (h w).of_ok hrun
  | error e => exact (h w).of_error hrun

theorem pure (x : α) : Steady (pure x : Action α) := fun w => ends_pure (.refl w)

theorem throw (h : Halt) : Steady (throw h : Action α) := fun w => ends_throw (.refl w)

theorem bind {g : α → Action β} (h : Steady a) (hg : ∀ x, Steady (g x)) : Steady (a >>= g) :=
  fun w => (h w).bind
    (fun x w' hw => (hg x w').mono (fun _ _ h => hw.trans h) fun _ _ h => hw.trans h)
    fun _ _ hw => hw

theorem atPath (path : String) (r : Except Cause α) : Steady (Action.atPath path r) := by
  cases r with
  | ok x => exact pure x
  | error cause => exact throw _

theorem ofExcept (r : Except Failure α) : Steady (Action.ofExcept r) := by
  cases r with
  | ok x => exact pure x
  | error f => exact throw _

theorem freshId : Steady Action.freshId := fun _ => ⟨⟨rfl, rfl, fun h => ⟨h, Grows.refl _⟩⟩⟩

theorem look (f : Disk → Location → Except Cause α) : Steady (Action.look f) := by
  intro w
  refine (Action.look_ends f).mono ?_ fun _ _ h => h.elim
  rintro r _ ⟨-, n, rfl⟩
  exact ⟨rfl, rfl, fun h => ⟨h, Grows.refl _⟩⟩

/-- An operation that keeps a disk solid, and all its directories. -/
theorem change {f : Disk → Location → Except Cause Disk} {w : World}
    (h : ∀ d, f w.disk w.cwd = .ok d → w.disk.Solid w.cwd → d.Solid w.cwd ∧ w.disk.Grows d) :
    Ends (Action.change f) w (fun _ w' => w.Evolves w') fun _ _ => False := by
  refine (Action.change_ends f).mono ?_ fun _ _ h => h
  rintro r _ (⟨d, n, -, hd, rfl⟩ | ⟨c, n, -, rfl⟩)
  · exact .of_disk (h d hd)
  · exact .of_disk fun hsolid => ⟨hsolid, Grows.refl _⟩

theorem writeFile (path text : String) : Steady (Action.writeFile path text) := by
  intro w
  refine (Action.writeFile_writes path text).mono ?_ ?_
  · rintro _ _ ⟨d, n, hwrite, rfl⟩
    exact .of_disk fun hsolid => write_solid hsolid hwrite
  · rintro _ _ ⟨d, n, c, -, rfl | ⟨content, hwrite⟩, rfl⟩
    · exact .of_disk fun hsolid => ⟨hsolid, Grows.refl _⟩
    · exact .of_disk fun hsolid => write_solid hsolid hwrite

theorem renameFile (source target : String) : Steady (Action.renameFile source target) := by
  intro w
  refine (change fun d hd hsolid => rename_solid hsolid hd).bind ?_ (fun _ _ h => h.elim)
  exact fun r w₁ h₁ => (atPath target r w₁).mono (fun _ _ h => h₁.trans h) fun _ _ h => h₁.trans h

/-- Making directories, from the root or from the current directory on. -/
theorem makeDirectories {start : Location} {parts : List String}
    (hparts : ∀ part ∈ parts, IsPart part) {w : World} (hstart : start = [] ∨ start = w.cwd) :
    Ends (Action.makeDirectories start parts) w (fun _ w' => w.Evolves w') fun _ _ => False := by
  refine Action.makeDirectories_keeps (fun part inner hsuffix w₁ h₁ => ?_) (.refl w)
  refine (change fun d hd hsolid => mkdir_solid hsolid (fun p hp => ?_) ?_ hd).mono
    (fun _ _ h => h₁.trans h) fun _ _ h => h
  · exact hparts p (hsuffix.subset (List.mem_reverse.1 hp))
  · obtain rfl | rfl := hstart
    · rfl
    · rw [← h₁.cwd]
      exact hsolid.cwd

theorem ensureDirectory (path : String) : Steady (Action.ensureDirectory path) := by
  intro w
  unfold Action.ensureDirectory
  split
  · exact ends_throw (.refl w)
  · refine ends_get.bind ?_ (fun _ _ h => h)
    rintro _ w ⟨rfl, rfl⟩
    have hstart : ∀ p : Files.Path, startOf w.cwd p = [] ∨ startOf w.cwd p = w.cwd := by
      intro p
      unfold startOf
      split
      · exact .inl rfl
      · exact .inr rfl
    refine (makeDirectories (fun part hpart => isPart_of_mem (List.mem_reverse.1 hpart))
      (hstart _)).bind ?_ (fun _ _ h => h.elim)
    exact fun r w₁ h₁ => (atPath path r w₁).mono (fun _ _ h => h₁.trans h) fun _ _ h => h₁.trans h

theorem load (s : Store) (name : String) : Steady (s.load name) := by
  refine (look _).bind fun r => ?_
  cases r with
  | ok source => exact pure source
  | error cause =>
    dsimp only
    split
    · exact throw _
    · exact throw _

/-! ### Compiling -/

theorem invoke (c : Compiler) (i : Invocation) (file : String) : Steady (c.invoke i file) := by
  intro w
  have hworld : ∀ is, w.Evolves { w with invocations := is } := fun _ =>
    ⟨rfl, rfl, fun h => ⟨h, Grows.refl _⟩⟩
  refine (invoke_ends c i file).mono ?_ ?_
  · rintro _ _ ⟨-, rfl⟩
    exact hworld _
  · rintro _ _ ⟨⟨is, rfl⟩, -⟩
    exact hworld _

theorem build (c : Compiler) (arena : Arena) (units : List String) (label : String)
    (origin : Origin) : Steady (c.build arena units label origin) := by
  refine (ofExcept _).bind fun targets => freshId.bind fun id => (ensureDirectory _).bind fun _ => ?_
  dsimp only
  split
  · refine (throw _).bind fun _ => (writeFile _ _).bind fun _ => (invoke c _ _).bind fun loaded => ?_
    split
    · exact throw _
    · exact pure _
  · refine (writeFile _ _).bind fun _ => (invoke c _ _).bind fun loaded => ?_
    split
    · exact throw _
    · exact pure _

theorem compile (c : Compiler) (arena : Arena) (source : String) (path : TypePath) :
    Steady (c.compile arena source path) := by
  refine (build c arena [source] path.name .dynamic).bind fun p => ?_
  split
  · exact pure p
  · exact throw _

/-! ### Opening -/

theorem unitsIn (dir : String) : Steady (Store.unitsIn dir) := by
  refine (look _).bind fun r => ?_
  cases r with
  | ok files => exact fun w => ends_get.bind (by rintro _ w ⟨rfl, rfl⟩; exact pure _ w) (fun _ _ h => h)
  | error cause =>
    dsimp only
    split
    · exact pure _
    · exact throw _

theorem readUnits (files : List (String × String)) : Steady (Foundry.readUnits files) := by
  induction files with
  | nil => exact pure _
  | cons entry files ih =>
    refine (look _).bind fun r => (atPath _ r).bind fun source => ih.bind fun others => ?_
    split
    · exact pure _
    · exact pure _

theorem storedUnits (dirs : List String) : Steady (Foundry.storedUnits dirs) := by
  induction dirs with
  | nil => exact pure _
  | cons dir dirs ih =>
    exact (unitsIn dir).bind fun files => (readUnits files).bind fun units => ih.bind fun _ => pure _

/-- **Opening a foundry** is steady. -/
theorem start (s : Settings) : Steady (Foundry.start s) := by
  refine (ofExcept _).bind fun _ => (ofExcept _).bind fun modules => ?_
  dsimp only
  split
  · refine (storedUnits _).bind fun units => ?_
    split
    · exact pure _
    · exact (build _ _ _ _ _).bind fun p => pure _
  · exact pure _

end Steady

/-! ## The path of a unit -/

/-- The path of the unit leads to where its file is, if there is one. -/
def Store.Reaches (s : Store) (w : World) (name : String) : Prop :=
  w.disk.locationOf w.cwd (s.path name) = .ok (place w.cwd (s.path name))

theorem Store.Reaches.evolves {s : Store} {w w' : World} {name : String} (h : s.Reaches w name)
    (hsolid : w.disk.Solid w.cwd) (hw : w.Evolves w') : s.Reaches w' name := by
  rw [Store.Reaches, hw.cwd]
  exact locationOf_grows (hw.disk hsolid).2 h

/-- **Saving** is steady; the path of a unit that was saved leads to its file. -/
theorem save_steady (s : Store) (name source : String) {w : World} :
    Ends (s.save name source) w
      (fun _ w' => w.Evolves w' ∧ (w.disk.Solid w.cwd → s.Reaches w' name))
      fun _ w' => w.Evolves w' := by
  refine (Steady.ensureDirectory _ w).bind ?_ fun _ _ h => h
  intro _ w₁ h₁
  refine (Steady.writeFile _ _ w₁).bind ?_ fun _ _ h => h₁.trans h
  intro _ w₂ h₂
  have h₂ := h₁.trans h₂
  refine (Action.renameFile_ends _ _).bind ?_ ?_
  · rintro _ _ ⟨d, n, hrename, rfl⟩
    have h₃ : w₂.Evolves { w₂ with disk := d, operations := n } :=
      .of_disk fun hsolid => rename_solid hsolid hrename
    refine ends_pure ⟨h₂.trans h₃, fun hsolid => ?_⟩
    have hsolid₂ : w₂.disk.Solid w₂.cwd := h₂.cwd ▸ (h₂.disk hsolid).1
    -- the rename found the place of the unit
    have hreaches : s.Reaches w₂ name := by
      obtain ⟨old, new, c, -, hnew, -⟩ := rename_ok hrename
      rw [Store.Reaches, hnew, locationOf_eq_place hnew]
    exact hreaches.evolves hsolid₂ h₃
  · rintro _ _ ⟨n, c, -, rfl⟩
    exact h₂.trans (.of_disk fun h => ⟨h, Grows.refl _⟩)

/-! ## Requests -/

section

variable {f : Foundry} {w : World}

/-- A step that only acts in the world, and steadily. -/
theorem Steady.step {α : Type} {a : Action α} (h : Steady a) :
    Ends (Step.ofAction a) (f, w) (fun _ s => s.1 = f ∧ w.Evolves s.2) fun _ s => w.Evolves s.2 := by
  refine (ofAction_ends (h w)).mono ?_ ?_
  · rintro _ _ ⟨w', rfl, hw'⟩
    exact ⟨rfl, hw'⟩
  · rintro _ _ ⟨w', rfl, hw'⟩
    exact hw'

/-- The world has evolved, and the path of the unit leads to its file. -/
def Request.Reached (f : Foundry) (w : World) (name : String) (w' : World) : Prop :=
  w.Evolves w' ∧ (w.disk.Solid w.cwd → f.store.Reaches w' name)

theorem establish_steady (name source : String) (path : TypePath) :
    Ends (Foundry.establish name source path) (f, w) (fun _ s => Request.Reached f w name s.2)
      fun _ s => w.Evolves s.2 := by
  refine foundry_ends.bind ?_ (fun _ _ h => h)
  rintro _ _ ⟨rfl, rfl⟩
  rename_i f
  refine (Steady.compile f.compiler f.arena source path).step.bind ?_ fun _ _ h => h
  rintro p ⟨g, w₁⟩ ⟨rfl, h₁⟩
  refine (ofAction_ends (save_steady g.store name source)).bind ?_ ?_
  · rintro file _ ⟨w₂, rfl, h₂, hreaches⟩
    have hreached : Request.Reached g w name w₂ :=
      ⟨h₁.trans h₂, fun hsolid => hreaches (h₁.cwd ▸ (h₁.disk hsolid).1)⟩
    dsimp only
    refine (put_ends _).bind ?_ (fun _ _ h => h)
    rintro _ _ rfl
    refine (ofAction_ends (Action.ofExcept_ends _)).bind ?_ ?_
    · rintro handle _ ⟨_, rfl, -, rfl⟩
      refine (put_ends _).bind ?_ (fun _ _ h => h)
      rintro _ _ rfl
      exact ends_pure hreached
    · rintro _ _ ⟨_, rfl, _, -, -, rfl⟩
      exact hreached.1
  · rintro _ _ ⟨w₂, rfl, h₂⟩
    exact h₁.trans h₂

/-- **Serving a request** is steady; the path of the unit of a request that succeeded leads to its
file. -/
theorem run_steady (q : Request) :
    Ends q.run (f, w) (fun a s => Request.Reached f w a.path.name s.2) fun _ s => w.Evolves s.2 := by
  have hcounted : ∀ n, w.Evolves { w with operations := n } := fun n => ⟨rfl, rfl, fun h => ⟨h, Grows.refl _⟩⟩
  refine Request.run_prepared q (fun _ n _ => hcounted n) fun name source path n hprepares => ?_
  have hname : path.name = name := by
    cases hprepares with
    | create => rfl
    | extend _ _ _ hpath _ => exact typePath_name hpath
  simp only [Request.path_answer, hname]
  exact (establish_steady name source path).mono
    (fun _ _ ⟨hevolves, hreaches⟩ => ⟨(hcounted n).trans hevolves, hreaches⟩)
    fun _ _ hevolves => (hcounted n).trans hevolves

namespace Request

variable {q : Request} {s : Foundry × World}

theorem serve_evolves {r : Except Halt Answer} (h : q.serve (f, w) = (r, s)) : w.Evolves s.2 := by
  cases r with
  | ok a => exact ((run_steady q).of_ok h).1
  | error e => exact (run_steady q).of_error h

theorem serve_reaches {a : Answer} (h : q.serve (f, w) = (.ok a, s)) (hsolid : w.disk.Solid w.cwd) :
    f.store.Reaches s.2 a.path.name := ((run_steady q).of_ok h).2 hsolid

end Request

end

end TypeFoundry
