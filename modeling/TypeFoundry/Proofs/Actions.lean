import TypeFoundry.Foundry
import TypeFoundry.Proofs.Disks

/-!
# How actions end

`Ends a s Q E` says how what runs in a state ends: in an answer of which `Q` holds, or in a halt of
which `E` holds. Each action has one lemma that says how it ends, and what it did to the world:
`writeFile_ends`, `renameFile_ends`, `ensureDirectory_ends`, and so on. All that an action changes is
named in the lemma; the rest of the world stays as it is.
-/

set_option autoImplicit false

namespace TypeFoundry

open Files Files.Disk

theorem toOption_eq_some {ε α : Type} {r : Except ε α} {a : α} :
    r.toOption = some a ↔ r = .ok a := by
  cases r <;> simp [Except.toOption]

section Ends

variable {σ α β : Type}

/-- What runs from the state ends in an answer of which `Q` holds or in a halt of which `E` holds, of
each with the state that it leaves. -/
structure Ends (a : ExceptT Halt (StateM σ) α) (s : σ) (Q : α → σ → Prop) (E : Halt → σ → Prop) :
    Prop where
  holds : match a.run s with
    | (.ok x, s') => Q x s'
    | (.error h, s') => E h s'

variable {a : ExceptT Halt (StateM σ) α} {g : α → ExceptT Halt (StateM σ) β} {s : σ}
  {Q Q' : α → σ → Prop} {R : β → σ → Prop} {E E' : Halt → σ → Prop}

/-- What follows runs from where an answer was left. -/
theorem bind_run (a : ExceptT Halt (StateM σ) α) (g : α → ExceptT Halt (StateM σ) β) (s : σ) :
    (a >>= g).run s = match a.run s with
      | (.ok x, s') => (g x).run s'
      | (.error e, s') => (.error e, s') := by
  show (match a.run s with | (r, s') => ExceptT.bindCont g r s') = _
  rcases a.run s with ⟨_ | _, _⟩ <;> rfl

theorem ends_pure {x : α} (h : Q x s) : Ends (pure x) s Q E := ⟨h⟩

theorem ends_throw {e : Halt} (h : E e s) : Ends (throw e) s Q E := ⟨h⟩

theorem ends_get : Ends get s (fun a s' => a = s ∧ s' = s) E := ⟨⟨rfl, rfl⟩⟩

theorem ends_set {s' : σ} {Q : PUnit → σ → Prop} (h : Q ⟨⟩ s') : Ends (set s') s Q E := ⟨h⟩

namespace Ends

theorem mono (h : Ends a s Q E) (hQ : ∀ x s', Q x s' → Q' x s') (hE : ∀ e s', E e s' → E' e s') :
    Ends a s Q' E' := by
  have hholds := h.holds
  constructor
  split at hholds
  · rename_i x s' hrun
    exact hQ x s' hholds
  · rename_i e s' hrun
    exact hE e s' hholds

/-- **Sequencing.** What follows runs from where an answer was left; a halt ends everything. -/
theorem bind (h : Ends a s Q E) (hQ : ∀ x s', Q x s' → Ends (g x) s' R E')
    (hE : ∀ e s', E e s' → E' e s') : Ends (a >>= g) s R E' := by
  have hholds := h.holds
  constructor
  rw [bind_run]
  split at hholds
  · rename_i x s' ha
    exact (hQ x s' hholds).holds
  · rename_i e s' ha
    exact hE e s' hholds

/-- What runs ends in one way, of which both hold. -/
theorem and (h : Ends a s Q E) (h' : Ends a s Q' E') :
    Ends a s (fun x s' => Q x s' ∧ Q' x s') fun e s' => E e s' ∧ E' e s' := by
  have hholds := h.holds
  have hholds' := h'.holds
  constructor
  split at hholds
  · rename_i x s' ha
    rw [ha] at hholds'
    exact ⟨hholds, hholds'⟩
  · rename_i e s' ha
    rw [ha] at hholds'
    exact ⟨hholds, hholds'⟩

/-- The answer is the one that the run gives. -/
theorem of_run (h : Ends a s Q E) : Ends a s (fun x s' => a.run s = (.ok x, s') ∧ Q x s') E := by
  have hholds := h.holds
  constructor
  split at hholds
  · rename_i x s' ha
    exact ⟨ha, hholds⟩
  · exact hholds

theorem of_ok {x : α} {s' : σ} (h : Ends a s Q E) (hrun : a.run s = (.ok x, s')) : Q x s' := by
  have hholds := h.holds
  rwa [hrun] at hholds

theorem of_error {e : Halt} {s' : σ} (h : Ends a s Q E) (hrun : a.run s = (.error e, s')) :
    E e s' := by
  have hholds := h.holds
  rwa [hrun] at hholds

end Ends

end Ends

namespace Action

variable {α : Type} {w : World}

theorem ofExcept_ends (r : Except Failure α) :
    Ends (ofExcept r) w (fun a w' => r = .ok a ∧ w' = w)
      fun h w' => ∃ f, r = .error f ∧ h = .failure f ∧ w' = w := by
  cases r with
  | ok a => exact ends_pure ⟨rfl, rfl⟩
  | error f => exact ends_throw ⟨f, rfl, rfl, rfl⟩

theorem ofHalting_ends (r : Except Halt α) :
    Ends (ofHalting r) w (fun a w' => r = .ok a ∧ w' = w) fun h w' => r = .error h ∧ w' = w := by
  cases r with
  | ok a => exact ends_pure ⟨rfl, rfl⟩
  | error h => exact ends_throw ⟨rfl, rfl⟩

theorem freshId_ends :
    Ends freshId w (fun id w' => id = w.ids w.drawn ∧ w' = { w with drawn := w.drawn + 1 })
      fun _ _ => False := ⟨⟨rfl, rfl⟩⟩

/-! ## Operations on the disk -/

theorem look_ends (f : Disk → Location → Except Cause α) :
    Ends (look f) w
      (fun r w' => (∀ a, r = .ok a → f w.disk w.cwd = .ok a) ∧ ∃ n, w' = { w with operations := n })
      fun _ _ => False := by
  have hnext : Ends nextObstacle w (fun _ w' => ∃ n, w' = { w with operations := n })
      fun _ _ => False := ⟨⟨_, rfl⟩⟩
  refine hnext.bind (fun o w' h => ?_) (fun _ _ h => h)
  obtain ⟨n, rfl⟩ := h
  cases o with
  | some o => exact ends_pure ⟨fun _ h => (nomatch h), n, rfl⟩
  | none => exact ⟨⟨fun _ h => h, n, rfl⟩⟩

/-- An operation changes the disk, or it fails and leaves it. -/
theorem change_ends (f : Disk → Location → Except Cause Disk) :
    Ends (change f) w
      (fun r w' => (∃ d n, r = .ok () ∧ f w.disk w.cwd = .ok d ∧
          w' = { w with disk := d, operations := n }) ∨
        ∃ c n, r = .error c ∧ w' = { w with operations := n })
      fun _ _ => False := by
  refine (look_ends f).bind (fun r w' h => ?_) (fun _ _ h => h)
  obtain ⟨hr, n, rfl⟩ := h
  cases r with
  | error c => exact ends_pure (.inr ⟨c, n, rfl, rfl⟩)
  | ok d => exact ⟨.inl ⟨d, n, rfl, hr d rfl, rfl⟩⟩

theorem isFile_ends (path : String) :
    Ends (isFile path) w (fun b w' => b = w.disk.isFile w.cwd path ∧ w' = w) fun _ _ => False :=
  ⟨⟨rfl, rfl⟩⟩

/-- A write is carried out, or it fails, and what it leaves in the file may be written. -/
theorem writeFile_writes (path text : String) :
    Ends (writeFile path text) w
      (fun _ w' => ∃ d n, w.disk.write w.cwd path (.text text) = .ok d ∧
        w' = { w with disk := d, operations := n })
      fun h w' => ∃ d n c, h = .failure (.io path c) ∧
        (d = w.disk ∨ ∃ content, w.disk.write w.cwd path content = .ok d) ∧
        w' = { w with disk := d, operations := n } := by
  refine ends_get.bind ?_ (fun _ _ h => h)
  rintro _ w ⟨rfl, rfl⟩
  refine (change_ends _).bind (fun r w' h => ?_) (fun _ _ h => h.elim)
  obtain ⟨d, n, rfl, hwrite, rfl⟩ | ⟨c, n, rfl, rfl⟩ := h
  · exact ends_pure ⟨d, n, hwrite, rfl⟩
  · -- the write is broken off
    dsimp only
    split
    · split
      · rename_i d hwrite
        exact ⟨⟨d, n, c, rfl, .inr ⟨_, hwrite⟩, rfl⟩⟩
      · exact ends_throw ⟨w.disk, n, c, rfl, .inl rfl, rfl⟩
    · exact ends_throw ⟨w.disk, n, c, rfl, .inl rfl, rfl⟩

/-- A write that fails leaves all other files as they are. -/
theorem writeFile_ends (path text : String) :
    Ends (writeFile path text) w
      (fun _ w' => ∃ d n, w.disk.write w.cwd path (.text text) = .ok d ∧
        w' = { w with disk := d, operations := n })
      fun h w' => ∃ d n c, h = .failure (.io path c) ∧
        SameFiles (· ≠ place w.cwd path) w.disk d ∧ w' = { w with disk := d, operations := n } := by
  refine (writeFile_writes path text).mono (fun _ _ h => h) ?_
  rintro h w' ⟨d, n, c, rfl, rfl | ⟨content, hwrite⟩, rfl⟩
  · exact ⟨_, n, c, rfl, SameFiles.refl _ _, rfl⟩
  · exact ⟨d, n, c, rfl, sameFiles_write hwrite, rfl⟩

/-- With no obstacle in the way, what can be written is written. -/
theorem writeFile_free {path text : String} {d : Disk} (hfree : w.obstacles w.operations = none)
    (h : w.disk.write w.cwd path (.text text) = .ok d) :
    Ends (writeFile path text) w
      (fun _ w' => w' = { w with disk := d, operations := w.operations + 1 }) fun _ _ => False := by
  have hnext : Ends nextObstacle w
      (fun o w' => o = none ∧ w' = { w with operations := w.operations + 1 }) fun _ _ => False :=
    ⟨⟨hfree, rfl⟩⟩
  have hchange : Ends (change fun d cwd => d.write cwd path (.text text)) w
      (fun r w' => r = .ok () ∧ w' = { w with disk := d, operations := w.operations + 1 })
      fun _ _ => False := by
    refine Ends.bind (Q := fun r w' => r = .ok d ∧ w' = { w with operations := w.operations + 1 })
      ?_ ?_ (fun _ _ h => h)
    · refine hnext.bind ?_ (fun _ _ h => h)
      rintro _ _ ⟨rfl, rfl⟩
      exact ⟨⟨h, rfl⟩⟩
    · rintro _ _ ⟨rfl, rfl⟩
      exact ⟨⟨rfl, rfl⟩⟩
  refine ends_get.bind ?_ (fun _ _ h => h)
  rintro _ w ⟨rfl, rfl⟩
  refine hchange.bind ?_ (fun _ _ h => h)
  rintro _ _ ⟨rfl, rfl⟩
  exact ends_pure rfl

theorem renameFile_ends (source target : String) :
    Ends (renameFile source target) w
      (fun _ w' => ∃ d n, w.disk.rename w.cwd source target = .ok d ∧
        w' = { w with disk := d, operations := n })
      fun h w' => ∃ n c, h = .failure (.io target c) ∧ w' = { w with operations := n } := by
  refine (change_ends _).bind (fun r w' h => ?_) (fun _ _ h => h.elim)
  obtain ⟨d, n, rfl, hrename, rfl⟩ | ⟨c, n, rfl, rfl⟩ := h
  · exact ends_pure ⟨d, n, hrename, rfl⟩
  · exact ends_throw ⟨n, c, rfl, rfl⟩

/-- The world with another disk that holds the same files, after further operations. -/
def SameWorld (w w' : World) : Prop :=
  ∃ d n, SameFiles (fun _ => True) w.disk d ∧ w' = { w with disk := d, operations := n }

theorem SameWorld.trans {w₁ w₂ : World} (h : SameWorld w w₁) (h' : SameWorld w₁ w₂) :
    SameWorld w w₂ := by
  obtain ⟨d, n, hd, rfl⟩ := h
  obtain ⟨d', n', hd', rfl⟩ := h'
  exact ⟨d', n', hd.trans hd', rfl⟩

/-- **Making directories** makes one after the other, from the outermost on: what each one keeps, all of
them keep. -/
theorem makeDirectories_keeps {R : World → Prop} {start : Location} {parts : List String}
    (hmkdir : ∀ part inner, part :: inner <:+ parts → ∀ w, R w →
      Ends (change fun d _ => d.mkdir start (part :: inner).reverse) w (fun _ w' => R w') fun _ _ => False)
    {w : World} (h : R w) :
    Ends (makeDirectories start parts) w (fun _ w' => R w') fun _ _ => False := by
  induction parts generalizing w with
  | nil => exact ends_pure h
  | cons part parts ih =>
    have hlast := hmkdir part parts List.suffix_rfl
    -- a directory that is there already is fine, whatever the operation says
    have hsettle : ∀ (cause : Cause) {w : World}, R w →
        Ends (do
            let w ← get
            if w.disk.leadsToDirectory start (part :: parts).reverse then return .ok ()
            else return .error cause : Action (Except Cause Unit)) w
          (fun _ w' => R w') fun _ _ => False := by
      intro cause w h
      refine ends_get.bind ?_ (fun _ _ h => h)
      rintro _ w ⟨rfl, rfl⟩
      split <;> exact ends_pure h
    refine (hlast w h).bind (fun r w₁ h₁ => ?_) (fun _ _ h => h)
    cases r with
    | ok _ => exact ends_pure h₁
    | error cause =>
      dsimp only
      split
      · refine (ih (fun p inner hp => hmkdir p inner (hp.trans (List.suffix_cons part parts))) h₁).bind
          (fun r w₂ h₂ => ?_) (fun _ _ h => h)
        cases r with
        | error cause => exact ends_pure h₂
        | ok _ =>
          refine (hlast w₂ h₂).bind (fun r w₃ h₃ => ?_) (fun _ _ h => h)
          cases r with
          | ok _ => exact ends_pure h₃
          | error cause => exact hsettle cause h₃
      · exact hsettle cause h₁

theorem change_mkdir_ends (start : Location) (parts : List String) :
    Ends (change fun d _ => d.mkdir start parts) w (fun _ w' => SameWorld w w') fun _ _ => False := by
  refine (change_ends _).mono (fun r w' h => ?_) (fun _ _ h => h)
  obtain ⟨d, n, -, hmkdir, rfl⟩ | ⟨c, n, -, rfl⟩ := h
  · exact ⟨d, n, fun loc _ => file?_mkdir hmkdir loc, rfl⟩
  · exact ⟨w.disk, n, SameFiles.refl _ _, rfl⟩

/-- Making directories leaves all files as they are. -/
theorem makeDirectories_ends (start : Location) (parts : List String) :
    Ends (makeDirectories start parts) w (fun _ w' => SameWorld w w') fun _ _ => False :=
  makeDirectories_keeps
    (fun _ _ _ _ hw => (change_mkdir_ends start _).mono (fun _ _ h => hw.trans h) fun _ _ h => h)
    ⟨w.disk, w.operations, SameFiles.refl _ _, rfl⟩

theorem ensureDirectory_ends (path : String) :
    Ends (ensureDirectory path) w (fun _ w' => SameWorld w w')
      fun h w' => SameWorld w w' ∧ ∃ c, h = .failure (.io path c) := by
  have hrefl : SameWorld w w := ⟨w.disk, w.operations, SameFiles.refl _ _, rfl⟩
  unfold ensureDirectory
  split
  · exact ends_throw ⟨hrefl, _, rfl⟩
  · refine ends_get.bind ?_ (fun _ _ h => h)
    rintro _ w ⟨rfl, rfl⟩
    refine (makeDirectories_ends _ _).bind (fun r w' h => ?_) (fun _ _ h => h.elim)
    cases r with
    | ok _ => exact ends_pure h
    | error c => exact ends_throw ⟨h, c, rfl⟩

end Action

end TypeFoundry
