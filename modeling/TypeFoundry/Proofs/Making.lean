import TypeFoundry.Proofs.Collecting
import TypeFoundry.Proofs.Entries

/-!
# Directories that are made

Making a directory along with those around it succeeds just if no file stands on the way and the system takes
all names on it (`CanMake`). Then there are directories on all of the way, and nothing else is changed
(`Made`). Both are said of the parts as they are written, with the ways up in them: a directory that such a
path goes through is made as well.
-/

set_option autoImplicit false

namespace TypeFoundry

open Files Files.Disk

namespace Files.Disk

variable {d d₁ d₂ : Disk} {cwd start loc : Location} {part last : String} {parts init : List String}

/-! ## Ways through directories -/

/-- The directory that the parts name is there or can be made: the system takes each name, and no file stands
on the way. -/
structure CanMake (d : Disk) (start : Location) (parts : List String) : Prop where
  fits : ∀ part ∈ parts, part ≠ ".." → part.utf8ByteSize ≤ maxName
  clear : ∀ ps, ps <+: parts → ∀ c, d.entry? (walk start ps) ≠ some (.file c)

/-- There are directories on all of the way, and nothing else has changed. -/
structure Made (start : Location) (parts : List String) (d d₁ : Disk) : Prop where
  way : ∀ ps, ps <+: parts → d₁.entry? (walk start ps) = some .directory
  others : ∀ loc, (∀ ps, ps <+: parts → loc ≠ walk start ps) → d₁.entry? loc = d.entry? loc

@[simp] theorem walk_nil (start : Location) : walk start [] = start := rfl

theorem walk_cons (start : Location) (part : String) (parts : List String) :
    walk start (part :: parts) = walk (if part = ".." then start.dropLast else start ++ [part]) parts := rfl

/-- A prefix of the parts and one more is all of them or a prefix of the parts. -/
theorem forall_prefix_concat {P : List String → Prop} :
    (∀ ps, ps <+: init ++ [last] → P ps) ↔ (∀ ps, ps <+: init → P ps) ∧ P (init ++ [last]) := by
  simp only [List.prefix_concat_iff, or_imp, forall_and, forall_eq]
  exact and_comm

/-- Parts can be followed along directories. -/
theorem follow_of_way (hfits : ∀ part ∈ parts, part ≠ ".." → part.utf8ByteSize ≤ maxName)
    (hway : ∀ ps, ps <+: parts → d.entry? (walk start ps) = some .directory) :
    d.follow start parts = .ok (walk start parts) := by
  induction parts generalizing start with
  | nil => rfl
  | cons part parts ih =>
    obtain ⟨hpart, hparts⟩ := List.forall_mem_cons.1 hfits
    have hrest : ∀ ps, ps <+: parts →
        d.entry? (walk (if part = ".." then start.dropLast else start ++ [part]) ps) = some .directory :=
      fun ps hps => hway (part :: ps) (List.cons_prefix_cons.2 ⟨rfl, hps⟩)
    rw [follow, walk_cons]
    by_cases hup : part = ".."
    · simp only [if_pos hup] at hrest ⊢
      exact ih hparts hrest
    · simp only [if_neg hup] at hrest ⊢
      have hdir := hrest [] (List.nil_prefix)
      rw [walk_nil] at hdir
      rw [if_neg (Nat.not_lt.2 (hpart hup)), hdir]
      exact ih hparts hrest

namespace Solid

/-- Parts that can be followed lead along directories. -/
theorem way (h : d.Solid cwd) (hstart : d.entry? start = some .directory)
    (hfollow : d.follow start parts = .ok loc) :
    (∀ part ∈ parts, part ≠ ".." → part.utf8ByteSize ≤ maxName) ∧
      ∀ ps, ps <+: parts → d.entry? (walk start ps) = some .directory := by
  induction parts generalizing start with
  | nil => simp [hstart]
  | cons part parts ih =>
    obtain ⟨next, hnext, hdir, hrest, hfits⟩ : ∃ next,
        (if part = ".." then start.dropLast else start ++ [part]) = next ∧
        d.entry? next = some .directory ∧ d.follow next parts = .ok loc ∧
        (part ≠ ".." → part.utf8ByteSize ≤ maxName) := by
      simp only [Disk.follow] at hfollow
      split at hfollow
      · rename_i hup
        exact ⟨_, if_pos hup, h.parent hstart, hfollow, fun h => absurd hup h⟩
      · rename_i hup
        split at hfollow
        · cases hfollow
        · rename_i hlength
          split at hfollow
          · cases hfollow
          · cases hfollow
          · rename_i hdir
            exact ⟨_, if_neg hup, hdir, hfollow, fun _ => Nat.not_lt.1 hlength⟩
    obtain ⟨hparts, hway⟩ := ih hdir hrest
    refine ⟨List.forall_mem_cons.2 ⟨hfits, hparts⟩, fun ps hps => ?_⟩
    obtain rfl | ⟨rest, rfl, hinner⟩ := List.prefix_cons_iff.1 hps
    · exact hstart
    · rw [walk_cons, hnext]
      exact hway rest hinner

theorem canMake (h : d.Solid cwd) (hstart : d.entry? start = some .directory)
    (hfollow : d.follow start parts = .ok loc) : d.CanMake start parts := by
  obtain ⟨hfits, hway⟩ := h.way hstart hfollow
  refine ⟨hfits, fun ps hps c => ?_⟩
  rw [hway ps hps]
  simp

end Solid

namespace CanMake

theorem initial (h : d.CanMake start (init ++ [last])) : d.CanMake start init :=
  ⟨fun part hpart => h.fits part (List.mem_append_left _ hpart),
    fun ps hps => h.clear ps (hps.trans (List.prefix_append _ _))⟩

/-- A way that is clear is followed to its end, or to where nothing is. -/
theorem follow (h : d.CanMake start parts) :
    d.follow start parts = .ok (walk start parts) ∨ d.follow start parts = .error .notFound := by
  obtain ⟨hfits, hclear⟩ := h
  induction parts generalizing start with
  | nil => exact .inl rfl
  | cons part parts ih =>
    obtain ⟨hpart, hparts⟩ := List.forall_mem_cons.1 hfits
    have hrest : ∀ ps, ps <+: parts → ∀ c,
        d.entry? (walk (if part = ".." then start.dropLast else start ++ [part]) ps) ≠ some (.file c) :=
      fun ps hps => hclear (part :: ps) (List.cons_prefix_cons.2 ⟨rfl, hps⟩)
    rw [Disk.follow, walk_cons]
    by_cases hup : part = ".."
    · simp only [if_pos hup] at hrest ⊢
      exact ih hparts hrest
    · simp only [if_neg hup] at hrest ⊢
      rw [if_neg (Nat.not_lt.2 (hpart hup))]
      cases hentry : d.entry? (start ++ [part]) with
      | none => exact .inr rfl
      | some e =>
        cases e with
        | file c => exact absurd hentry (hrest [] List.nil_prefix c)
        | directory => exact ih hparts hrest

end CanMake

namespace Made

/-- What was made on a part of the way can be made on all of it just if it could before. -/
theorem canMake_iff (h : Made start init d d₁) (hinit : d.CanMake start init) :
    d₁.CanMake start (init ++ [last]) ↔ d.CanMake start (init ++ [last]) := by
  have hlast : ∀ c, d₁.entry? (walk start (init ++ [last])) = some (.file c) ↔
      d.entry? (walk start (init ++ [last])) = some (.file c) := by
    intro c
    by_cases hback : ∃ ps, ps <+: init ∧ walk start (init ++ [last]) = walk start ps
    · obtain ⟨ps, hps, heq⟩ := hback
      rw [heq, h.way ps hps]
      exact iff_of_false (by simp) (hinit.clear ps hps c)
    · rw [h.others _ fun ps hps heq => hback ⟨ps, hps, heq⟩]
  constructor
  · rintro ⟨hfits, hclear⟩
    rw [forall_prefix_concat] at hclear
    refine ⟨hfits, forall_prefix_concat.2 ⟨hinit.clear, fun c hc => hclear.2 c ((hlast c).2 hc)⟩⟩
  · rintro ⟨hfits, hclear⟩
    rw [forall_prefix_concat] at hclear
    refine ⟨hfits, forall_prefix_concat.2 ⟨fun ps hps c => ?_, fun c hc => hclear.2 c ((hlast c).1 hc)⟩⟩
    rw [h.way ps hps]
    simp

theorem trans (h : Made start init d d₁) (h' : Made start (init ++ [last]) d₁ d₂) :
    Made start (init ++ [last]) d d₂ := by
  refine ⟨h'.way, fun loc hloc => ?_⟩
  rw [h'.others loc hloc, h.others loc fun ps hps => hloc ps (hps.trans (List.prefix_append _ _))]

end Made

/-! ## One directory -/

/-- Where the directory around is missing, there is nothing to make the directory in. -/
theorem mkdir_of_error {cause : Cause} (h : d.follow start init = .error cause) :
    d.mkdir start (init ++ [last]) = .error cause := by
  simp only [mkdir, locate, List.getLast?_concat, List.dropLast_concat, h]
  rfl

/-- The last directory is made right in the one that the others lead to. -/
theorem mkdir_of_follow (h : d.follow start init = .ok loc) : d.mkdir start (init ++ [last]) =
    (if last = ".." then .ok loc.dropLast
      else if maxName < last.utf8ByteSize then .error .nameTooLong else .ok (loc ++ [last]) :
      Except Cause Location).bind fun loc =>
        match d.entry? loc with
        | some _ => .error .alreadyThere
        | none => .ok (d.put loc .directory) := by
  simp only [mkdir, locate, List.getLast?_concat, List.dropLast_concat, h]
  rfl

theorem leadsToDirectory_of_follow (h : d.follow start init = .ok loc) :
    d.leadsToDirectory start (init ++ [last]) = (d.follow loc [last]).isOk := by
  rw [leadsToDirectory, follow_append, h, Except.bind]

/-- The result of making the directory that the parts name, which is not that one around it is missing: it is
made, or it is there, or it cannot be made. -/
inductive Makes (d : Disk) (cwd start : Location) (parts : List String) : Except Cause Disk → Prop where
  | made {d₁ : Disk} : d.CanMake start parts → Made start parts d d₁ → d₁.Solid cwd → Grows d d₁ →
    Makes d cwd start parts (.ok d₁)
  | there {cause : Cause} : cause ≠ .notFound → d.leadsToDirectory start parts = true →
    d.CanMake start parts → Made start parts d d → Makes d cwd start parts (.error cause)
  | blocked {cause : Cause} : cause ≠ .notFound → d.leadsToDirectory start parts = false →
    ¬ d.CanMake start parts → Makes d cwd start parts (.error cause)

/-- A way that can be followed to its end is there. -/
theorem Solid.makes_of_follow {cause : Cause} (h : d.Solid cwd) (hstart : d.entry? start = some .directory)
    (hfollow : d.follow start parts = .ok loc) (hcause : cause ≠ .notFound) :
    Makes d cwd start parts (.error cause) :=
  .there hcause (by rw [leadsToDirectory, hfollow]; rfl) (h.canMake hstart hfollow)
    ⟨(h.way hstart hfollow).2, fun _ _ => rfl⟩

/-- What is new in a directory on the way is made. -/
theorem Solid.makes_put (h : d.Solid cwd) (hstart : d.entry? start = some .directory)
    (hlast : IsFileName last) (hlength : last.utf8ByteSize ≤ maxName)
    (hfollow : d.follow start init = .ok loc) (hentry : d.entry? (loc ++ [last]) = none) :
    Makes d cwd start (init ++ [last]) (.ok (d.put (loc ++ [last]) .directory)) := by
  obtain ⟨hfits, hway⟩ := h.way hstart hfollow
  have hat : walk start (init ++ [last]) = loc ++ [last] := by
    rw [walk_snoc hlast.ne_up, follow_eq_walk hfollow]
  obtain ⟨hput, hgrows⟩ := h.put (e := .directory) rfl (h.follow hstart hfollow) hlast
    (by rw [hentry]; simp)
  refine .made ⟨?_, forall_prefix_concat.2 ⟨fun ps hps c => ?_, fun c => ?_⟩⟩
    ⟨forall_prefix_concat.2 ⟨fun ps hps => hgrows _ (hway ps hps), ?_⟩, fun loc' hloc' => ?_⟩ hput hgrows
  · rw [List.forall_mem_append, List.forall_mem_singleton]
    exact ⟨hfits, fun _ => hlength⟩
  · simp [hway ps hps]
  · simp [hat, hentry]
  · rw [hat]
    exact entry?_put_self (by simp) _
  · refine entry?_put_of_ne ?_ _
    rw [← hat]
    exact hloc' _ List.prefix_rfl

/-- **Making the last directory**: it is made, or it is there, or it cannot be made. -/
theorem mkdir_makes (hsolid : d.Solid cwd) (hstart : d.entry? start = some .directory)
    (hlast : IsPart last) (hfollow : d.follow start init = .ok loc) :
    Makes d cwd start (init ++ [last]) (d.mkdir start (init ++ [last])) := by
  have hdir : d.entry? loc = some .directory := hsolid.follow hstart hfollow
  have hall : ∀ {loc'}, d.follow loc [last] = .ok loc' → d.follow start (init ++ [last]) = .ok loc' := by
    intro loc' h
    rw [follow_append, hfollow]
    exact h
  rw [mkdir_of_follow hfollow]
  by_cases hup : last = ".."
  · have hback : d.follow loc [last] = .ok loc.dropLast := by rw [follow, if_pos hup]; rfl
    rw [if_pos hup, Except.bind, hsolid.parent hdir]
    exact hsolid.makes_of_follow hstart (hall hback) (by decide)
  · rw [if_neg hup]
    by_cases hlength : maxName < last.utf8ByteSize
    · have htooLong : d.follow loc [last] = .error .nameTooLong := by rw [follow, if_neg hup, if_pos hlength]
      rw [if_pos hlength]
      refine .blocked (by decide) (by rw [leadsToDirectory_of_follow hfollow, htooLong]; rfl) fun h => ?_
      exact absurd (h.fits last (by simp) hup) (Nat.not_le.2 hlength)
    · rw [if_neg hlength, Except.bind]
      cases hentry : d.entry? (loc ++ [last]) with
      | none => exact hsolid.makes_put hstart (hlast.isFileName hup) (Nat.not_lt.1 hlength) hfollow hentry
      | some e =>
        cases e with
        | directory =>
          have hfound : d.follow loc [last] = .ok (loc ++ [last]) := by
            rw [follow, if_neg hup, if_neg hlength, hentry]
            rfl
          exact hsolid.makes_of_follow hstart (hall hfound) (by decide)
        | file c =>
          have hfile : d.follow loc [last] = .error .notADirectory := by
            rw [follow, if_neg hup, if_neg hlength, hentry]
          refine .blocked (by decide) (by rw [leadsToDirectory_of_follow hfollow, hfile]; rfl) fun h => ?_
          refine h.clear _ List.prefix_rfl c ?_
          rw [walk_snoc hup, ← follow_eq_walk hfollow, hentry]

/-! ## Files in directories that were made -/

/-- The directory at the path is there or can be made. -/
structure CanHold (d : Disk) (cwd : Location) (path : String) : Prop where
  noNul : '\x00' ∉ path.toList
  way : d.CanMake (startAt cwd path) (partsOf path)

/-- A file is written right in the directory that was made, unless a directory has its name. -/
theorem write_made {dir name : String} {content : Content} (hname : IsFileName name)
    (hnul : '\x00' ∉ name.toList) (hlength : name.utf8ByteSize ≤ maxName) (hhold : d.CanHold cwd dir)
    (hmade : Made (startAt cwd dir) (partsOf dir) d d₁) :
    (d₁.write cwd (join dir name) content).isOk = true ↔
      d₁.entry? (place cwd dir ++ [name]) ≠ some .directory := by
  have hfollow : d₁.follow (startAt cwd dir) (partsOf dir) = .ok (place cwd dir) :=
    follow_of_way hhold.way.fits hmade.way
  simp only [write, locationOf_join hname hhold.noNul hnul, hfollow, Except.bind, bind,
    if_neg (Nat.not_lt.2 hlength)]
  split <;> simp_all [Except.isOk, Except.toBool]

end Files.Disk

/-! ## All directories on the way -/

/-- No operation on the disk meets an obstacle. -/
def World.Undisturbed (w : World) : Prop := ∀ n, w.obstacles n = none

theorem World.Undisturbed.met? {w : World} (h : w.Undisturbed) : w.met? = none := by
  rw [World.met?, h]
  rfl

theorem change_answers (f : Disk → Location → Except Cause Disk) {w : World} (h : w.Undisturbed) :
    Ends (Action.change f) w
      (fun r w' => ∃ n, (∃ cause, r = .error cause ∧ f w.disk w.cwd = .error cause ∧
          w' = { w with operations := n }) ∨
        ∃ d, r = .ok () ∧ f w.disk w.cwd = .ok d ∧ w' = { w with disk := d, operations := n })
      fun _ _ => False := by
  refine (look_answers f).bind (fun r w' hr => ?_) (fun _ _ h => h)
  obtain ⟨hr, n, rfl⟩ := hr
  rw [World.answer_free h.met?] at hr
  cases r with
  | error cause => exact ends_pure ⟨n, .inl ⟨cause, rfl, hr.symm, rfl⟩⟩
  | ok d => exact ⟨⟨n, .inr ⟨d, rfl, hr.symm, rfl⟩⟩⟩

/-- The world has another disk, with all directories of the earlier one, and operations on it were counted. -/
structure World.Turns (w w' : World) : Prop where
  eq : ∃ d n, w' = { w with disk := d, operations := n }
  solid : w'.disk.Solid w.cwd
  grows : Grows w.disk w'.disk

namespace World.Turns

variable {w w₁ w₂ : World}

theorem refl (h : w.disk.Solid w.cwd) : w.Turns w := ⟨⟨w.disk, w.operations, rfl⟩, h, Grows.refl _⟩

theorem trans (h : w.Turns w₁) (h' : w₁.Turns w₂) : w.Turns w₂ := by
  obtain ⟨⟨d, n, rfl⟩, -, hgrows⟩ := h
  obtain ⟨⟨d', n', rfl⟩, hsolid, hgrows'⟩ := h'
  exact ⟨⟨d', n', rfl⟩, hsolid, hgrows.trans hgrows'⟩

theorem of_counted {n : Nat} (h : World.Turns { w with operations := n } w₁) : w.Turns w₁ :=
  ⟨h.eq, h.solid, h.grows⟩

theorem cwd (h : w.Turns w₁) : w₁.cwd = w.cwd := by
  obtain ⟨d, n, rfl⟩ := h.eq
  rfl

theorem undisturbed (h : w.Turns w₁) (hfree : w.Undisturbed) : w₁.Undisturbed := by
  obtain ⟨d, n, rfl⟩ := h.eq
  exact hfree

end World.Turns

namespace Action

variable {w : World} {start : Location}

/-- How making the directory that the parts name ends: it is there, or it cannot be there. -/
inductive Prepared (start : Location) (parts : List String) (w : World) :
    Except Cause Unit → World → Prop where
  | made {w' : World} : w.Turns w' → w.disk.CanMake start parts → Made start parts w.disk w'.disk →
    Prepared start parts w (.ok ()) w'
  | blocked {w' : World} {cause : Cause} : w.Turns w' → ¬ w.disk.CanMake start parts →
    Prepared start parts w (.error cause) w'

namespace Prepared

variable {init : List String} {last : String} {r : Except Cause Unit} {w₁ w₂ : World}

/-- The last directory is made behind those around it. -/
theorem trans (h : Prepared start init w (.ok ()) w₁) (h' : Prepared start (init ++ [last]) w₁ r w₂) :
    Prepared start (init ++ [last]) w r w₂ := by
  cases h with
  | made hturns hcan hmade =>
    cases h' with
    | made hturns' hcan' hmade' =>
      exact .made (hturns.trans hturns') ((hmade.canMake_iff hcan).1 hcan') (hmade.trans hmade')
    | blocked hturns' hcan' =>
      exact .blocked (hturns.trans hturns') fun h => hcan' ((hmade.canMake_iff hcan).2 h)

end Prepared

/-- What is there already is fine, whatever the operation says. -/
theorem settle_prepared {parts : List String} {cause : Cause} {n : Nat} (hsolid : w.disk.Solid w.cwd)
    (h : Makes w.disk w.cwd start parts (.error cause)) :
    Ends (do
        let w ← get
        if w.disk.leadsToDirectory start parts then return .ok ()
        else return .error cause : Action (Except Cause Unit)) { w with operations := n }
      (fun r w' => Prepared start parts w r w') fun _ _ => False := by
  have hturns : w.Turns { w with operations := n } := ⟨⟨w.disk, n, rfl⟩, hsolid, Grows.refl _⟩
  refine ends_get.bind ?_ (fun _ _ h => h)
  rintro _ _ ⟨rfl, rfl⟩
  cases h with
  | there _ hleads hcan hmade =>
    rw [if_pos hleads]
    exact ends_pure (.made hturns hcan hmade)
  | blocked _ hleads hcan =>
    rw [if_neg (by simp [hleads])]
    exact ends_pure (.blocked hturns hcan)

/-- Making the last directory right in the one that the others lead to. -/
theorem mkdir_prepared {init : List String} {last : String} {loc : Location} (hfree : w.Undisturbed)
    (hsolid : w.disk.Solid w.cwd) (hstart : w.disk.entry? start = some .directory) (hlast : IsPart last)
    (hfollow : w.disk.follow start init = .ok loc) :
    Ends (change fun d _ => d.mkdir start (init ++ [last])) w
      (fun r w' => Prepared start (init ++ [last]) w r w' ∧ r = .ok () ∨
        ∃ cause n, r = .error cause ∧ cause ≠ .notFound ∧ w' = { w with operations := n } ∧
          Makes w.disk w.cwd start (init ++ [last]) (.error cause)) fun _ _ => False := by
  have hmakes := mkdir_makes hsolid hstart hlast hfollow
  refine (change_answers _ hfree).mono ?_ (fun _ _ h => h)
  rintro r w' ⟨n, ⟨cause, rfl, hmkdir, rfl⟩ | ⟨d, rfl, hmkdir, rfl⟩⟩
  · rw [hmkdir] at hmakes
    have hcause : cause ≠ .notFound := by cases hmakes <;> assumption
    exact .inr ⟨cause, n, rfl, hcause, rfl, hmakes⟩
  · rw [hmkdir] at hmakes
    cases hmakes with
    | made hcan hmade hsolid' hgrows => exact .inl ⟨.made ⟨⟨d, n, rfl⟩, hsolid', hgrows⟩ hcan hmade, rfl⟩

/-- **Making directories** leaves directories on all of the way, if no file is on it. -/
theorem makeDirectories_prepared {parts : List String} (hfree : w.Undisturbed) (hsolid : w.disk.Solid w.cwd)
    (hstart : w.disk.entry? start = some .directory) (hparts : ∀ part ∈ parts, IsPart part) :
    Ends (makeDirectories start parts) w (fun r w' => Prepared start parts.reverse w r w')
      fun _ _ => False := by
  induction parts generalizing w with
  | nil =>
    have hway : ∀ ps, ps <+: ([] : List String) → w.disk.entry? (walk start ps) = some .directory := by
      simpa using hstart
    refine ends_pure (.made (.refl hsolid) ⟨by simp, fun ps hps c => ?_⟩ ⟨hway, fun _ _ => rfl⟩)
    simp [hway ps hps]
  | cons part parts ih =>
    obtain ⟨hpart, hparts⟩ := List.forall_mem_cons.1 hparts
    unfold makeDirectories
    simp only [List.reverse_cons]
    cases hfollow : w.disk.follow start parts.reverse with
    | ok loc =>
      refine (mkdir_prepared hfree hsolid hstart hpart hfollow).bind ?_ (fun _ _ h => h)
      rintro _ w₁ (⟨hprepared, rfl⟩ | ⟨cause, n, rfl, hcause, rfl, hmakes⟩)
      · exact ends_pure hprepared
      · dsimp only
        rw [if_neg hcause]
        exact settle_prepared hsolid hmakes
    | error cause =>
      have hmissing : w.disk.mkdir start (parts.reverse ++ [part]) = .error cause := mkdir_of_error hfollow
      refine (change_answers _ hfree).bind ?_ (fun _ _ h => h)
      rintro _ w₁ ⟨n, ⟨cause', rfl, hmkdir, rfl⟩ | ⟨d, rfl, hmkdir, rfl⟩⟩
      · obtain rfl := Except.error.inj (hmkdir.symm.trans hmissing)
        dsimp only
        by_cases hcause : cause' = .notFound
        · -- the directories around it are made first
          rw [if_pos hcause]
          have haround := ih (w := { w with operations := n }) hfree hsolid hstart hparts
          refine haround.bind (fun r w₂ h₂ => ?_) (fun _ _ h => h)
          cases h₂ with
          | blocked hturns hcan =>
            exact ends_pure (.blocked hturns.of_counted fun h => hcan h.initial)
          | made hturns hcan hmade =>
            have hturns := hturns.of_counted
            have hfollow₂ := follow_of_way hcan.fits hmade.way
            have hfirst : Prepared start parts.reverse w (.ok ()) w₂ := .made hturns hcan hmade
            refine (mkdir_prepared (hturns.undisturbed hfree) (hturns.cwd ▸ hturns.solid)
              (hturns.grows _ hstart) hpart hfollow₂).bind ?_ (fun _ _ h => h)
            rintro _ w₃ (⟨hprepared, rfl⟩ | ⟨cause, m, rfl, -, rfl, hmakes⟩)
            · exact ends_pure (hfirst.trans hprepared)
            · exact (settle_prepared (hturns.cwd ▸ hturns.solid) hmakes).mono
                (fun _ _ h => hfirst.trans h) fun _ _ h => h
        · rw [if_neg hcause]
          refine settle_prepared hsolid (.blocked hcause ?_ fun hcan => ?_)
          · rw [leadsToDirectory, follow_append, hfollow]
            rfl
          · obtain hdir | hnone := hcan.initial.follow
            · rw [hfollow] at hdir
              cases hdir
            · rw [hfollow] at hnone
              exact hcause (Except.error.inj hnone)
      · cases hmkdir.symm.trans hmissing

/-- **Making the directory at a path** leaves directories on all of the way, or the path cannot be made. -/
theorem ensureDirectory_prepared (path : String) (hfree : w.Undisturbed) (hsolid : w.disk.Solid w.cwd) :
    Ends (ensureDirectory path) w
      (fun _ w' => w.Turns w' ∧ w.disk.CanHold w.cwd path ∧
        Made (startAt w.cwd path) (partsOf path) w.disk w'.disk)
      fun h w' => w.Turns w' ∧ ¬ w.disk.CanHold w.cwd path ∧ ∃ cause, h = .failure (.io path cause) := by
  unfold ensureDirectory
  split
  · rename_i hnul
    exact ends_throw ⟨.refl hsolid, fun h => h.noNul (List.contains_iff_mem.1 hnul), _, rfl⟩
  · rename_i hnul
    rw [List.contains_iff_mem] at hnul
    refine ends_get.bind ?_ (fun _ _ h => h)
    rintro _ w ⟨rfl, rfl⟩
    have hparts : ∀ part ∈ (partsOf path).reverse, IsPart part :=
      fun part hpart => isPart_of_mem (List.mem_reverse.1 hpart)
    have hprepared := makeDirectories_prepared hfree hsolid (hsolid.startOf (Path.ofText path)) hparts
    rw [List.reverse_reverse] at hprepared
    refine hprepared.bind (fun r w' h => ?_) (fun _ _ h => h.elim)
    cases h with
    | made hturns hcan hmade => exact ends_pure ⟨hturns, ⟨hnul, hcan⟩, hmade⟩
    | blocked hturns hcan => exact ends_throw ⟨hturns, fun h => hcan h.way, _, rfl⟩

end Action

end TypeFoundry
