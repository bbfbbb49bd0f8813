import TypeFoundry.Proofs.Crates
import TypeFoundry.Proofs.Startup

/-!
# The start with clutter in the directories

Two worlds that differ in their disks only are `Twins`. What runs in both ends `Alike` if it comes to the same
answer, or to halts of the same category, and hands the same to the toolchain. A compilation does if the crate
can be written in both (`build_alike`), and so does the start if one disk is the other one with clutter in its
directories (`Clutters.start_alike`). `start_ignores_clutter` puts this beside what opening comes to at all.
-/

set_option autoImplicit false

namespace TypeFoundry

open Files Files.Disk Source

/-! ## Runs side by side -/

/-- The worlds differ in their disks only, and in how many operations on them were counted. -/
def Twins (w v : World) : Prop := ∃ d n, v = { w with disk := d, operations := n }

section

variable {α β : Type} {a : Action α} {g : α → Action β} {w v : World} {R : α → World → World → Prop}
  {S : β → World → World → Prop}

/-- What runs in both worlds ends in the same answer, of which `R` holds with the worlds that are left, or in
halts of the same category; then both worlds have handed over the same crates. -/
structure Alike (a : Action α) (w v : World) (R : α → World → World → Prop) : Prop where
  holds : match a.run w, a.run v with
    | (.ok x, w'), (.ok y, v') => y = x ∧ R x w' v'
    | (.error h, w'), (.error h', v') => h'.kind? = h.kind? ∧ v'.invocations = w'.invocations
    | _, _ => False

namespace Alike

theorem pure {x : α} (h : R x w v) : Alike (pure x : Action α) w v R := ⟨rfl, h⟩

theorem throw {h : Halt} (hsame : v.invocations = w.invocations) : Alike (throw h : Action α) w v R :=
  ⟨rfl, hsame⟩

/-- **Sequencing.** What follows runs from where the answers were left. -/
theorem bind (h : Alike a w v R) (hg : ∀ x w' v', R x w' v' → Alike (g x) w' v' S) :
    Alike (a >>= g) w v S := by
  have hholds := h.holds
  constructor
  rw [bind_run, bind_run]
  revert hholds
  rcases a.run w with ⟨e | x, w'⟩ <;> rcases a.run v with ⟨e' | y, v'⟩
  · exact id
  · exact False.elim
  · exact False.elim
  · rintro ⟨rfl, hR⟩
    exact (hg _ w' v' hR).holds

/-- Two runs, of each of which it is known how it ends. -/
theorem of_ends {Q Q' : α → World → Prop} {E E' : Halt → World → Prop} (h : Ends a w Q E)
    (h' : Ends a v Q' E')
    (hanswer : ∀ x w' y v', Q x w' → Q' y v' → y = x ∧ R x w' v')
    (hhalt : ∀ e w' e' v', E e w' → E' e' v' → e'.kind? = e.kind? ∧ v'.invocations = w'.invocations)
    (hleft : ∀ x w' e v', Q x w' → ¬ E' e v') (hright : ∀ e w' y v', E e w' → ¬ Q' y v') :
    Alike a w v R := by
  have hholds := h.holds
  have hholds' := h'.holds
  constructor
  revert hholds hholds'
  rcases a.run w with ⟨e | x, w'⟩ <;> rcases a.run v with ⟨e' | y, v'⟩
  · exact fun he he' => hhalt e w' e' v' he he'
  · exact fun he hy => hright e w' y v' he hy
  · exact fun hx he' => hleft x w' e' v' hx he'
  · exact fun hx hy => hanswer x w' y v' hx hy

/-- Runs that end alike come to the same, and have handed over the same. -/
theorem same {a : Action α} (h : Alike a w v fun _ => Twins) :
    (a.run v).1.mapError Halt.kind? = (a.run w).1.mapError Halt.kind? ∧
      (a.run v).2.invocations = (a.run w).2.invocations := by
  have hholds := h.holds
  revert hholds
  rcases a.run w with ⟨e | x, w'⟩ <;> rcases a.run v with ⟨e' | y, v'⟩
  · exact fun ⟨hkind, hinvocations⟩ => ⟨congrArg Except.error hkind, hinvocations⟩
  · exact False.elim
  · exact False.elim
  · rintro ⟨rfl, d, n, rfl⟩
    exact ⟨rfl, rfl⟩

theorem ofExcept {r : Except Failure α} (hsame : v.invocations = w.invocations)
    (h : ∀ x, r = .ok x → R x w v) : Alike (Action.ofExcept r) w v R := by
  cases r with
  | ok x => exact .pure (h x rfl)
  | error f => exact .throw hsame

end Alike

end

/-! ## Compilations -/

namespace Files.Disk

/-- The text of a crate can be written in the directory on both disks or on neither. -/
structure SameRoom (d d' : Disk) (cwd : Location) (dir : String) : Prop where
  hold : d'.CanHold cwd dir ↔ d.CanHold cwd dir
  text : d'.entry? (place cwd dir ++ ["lib.rs"]) = some .directory ↔
    d.entry? (place cwd dir ++ ["lib.rs"]) = some .directory

/-- The directories are those that were made and those that were there. -/
theorem Made.directory_iff {d d₁ : Disk} {start loc : Location} {parts : List String}
    (h : Made start parts d d₁) : d₁.entry? loc = some .directory ↔
      (∃ ps, ps <+: parts ∧ loc = walk start ps) ∨ d.entry? loc = some .directory := by
  by_cases hway : ∃ ps, ps <+: parts ∧ loc = walk start ps
  · obtain ⟨ps, hps, rfl⟩ := hway
    exact iff_of_true (h.way ps hps) (.inl ⟨ps, hps, rfl⟩)
  · rw [h.others loc fun ps hps heq => hway ⟨ps, hps, heq⟩, or_iff_right hway]

/-- Where the directory was made, the text can be written on both disks or on neither. -/
theorem SameRoom.write_iff {d d' d₁ d₂ : Disk} {cwd : Location} {dir : String} {content : Content}
    (h : SameRoom d d' cwd dir) (hhold : d.CanHold cwd dir)
    (hmade : Made (startAt cwd dir) (partsOf dir) d d₁)
    (hmade' : Made (startAt cwd dir) (partsOf dir) d' d₂) :
    (d₂.write cwd (join dir "lib.rs") content).isOk = (d₁.write cwd (join dir "lib.rs") content).isOk := by
  have hlib : IsFileName "lib.rs" := ⟨by decide, by decide, by decide, by decide⟩
  rw [Bool.eq_iff_iff, write_made hlib (by decide) (by decide) hhold hmade,
    write_made hlib (by decide) (by decide) (h.hold.2 hhold) hmade', ne_eq, ne_eq, hmade.directory_iff,
    hmade'.directory_iff, h.text]

end Files.Disk

/-- Where no obstacle is met, a text is written just if the disk allows it. -/
theorem writeFile_decides {w : World} (path text : String) (hfree : w.Undisturbed) :
    Ends (Action.writeFile path text) w
      (fun _ w' => (w.disk.write w.cwd path (.text text)).isOk = true ∧ Twins w w')
      fun e w' => (w.disk.write w.cwd path (.text text)).isOk = false ∧ e.kind? = some "IoError" ∧
        Twins w w' := by
  cases hwrite : w.disk.write w.cwd path (.text text) with
  | ok d =>
    refine (Action.writeFile_free (hfree _) hwrite).mono ?_ fun _ _ h => h.elim
    rintro _ _ rfl
    exact ⟨rfl, _, _, rfl⟩
  | error cause =>
    refine (Action.writeFile_writes path text).mono ?_ ?_
    · rintro _ _ ⟨d, _, hok, -⟩
      cases hwrite.symm.trans hok
    · rintro _ _ ⟨d, n, cause', rfl, -, rfl⟩
      exact ⟨rfl, rfl, _, _, rfl⟩

/-- A text is written in both worlds or in neither. -/
theorem writeFile_alike {w v : World} {path text : String} (h : Twins w v) (hfree : w.Undisturbed)
    (hsame : (v.disk.write w.cwd path (.text text)).isOk = (w.disk.write w.cwd path (.text text)).isOk) :
    Alike (Action.writeFile path text) w v fun _ => Twins := by
  obtain ⟨d, n, rfl⟩ := h
  refine .of_ends (writeFile_decides path text hfree) (writeFile_decides path text hfree) ?_ ?_ ?_ ?_
  · rintro _ _ _ _ ⟨-, d₁, n₁, rfl⟩ ⟨-, d₂, n₂, rfl⟩
    exact ⟨rfl, d₂, n₂, rfl⟩
  · rintro _ _ _ _ ⟨-, hkind, d₁, n₁, rfl⟩ ⟨-, hkind', d₂, n₂, rfl⟩
    exact ⟨hkind'.trans hkind.symm, rfl⟩
  · exact fun _ _ _ _ ⟨hok, _⟩ ⟨hnot, _⟩ => Bool.false_ne_true (hnot.symm.trans (hsame.trans hok))
  · exact fun _ _ _ _ ⟨hnot, _⟩ ⟨hok, _⟩ => Bool.false_ne_true (hnot.symm.trans (hsame.symm.trans hok))

namespace Compiler

variable {c : Compiler} {w v : World}

theorem invoke_alike (i : Invocation) (file : String) (h : Twins w v) :
    Alike (c.invoke i file) w v fun _ => Twins := by
  obtain ⟨d, n, rfl⟩ := h
  have hreply : World.nextReply { w with disk := d, operations := n } = w.nextReply := rfl
  constructor
  rw [invoke_run, invoke_run, hreply]
  dsimp only
  cases w.toolchain.missing? c.toolchain with
  | some cause => exact ⟨rfl, rfl⟩
  | none =>
    cases w.nextReply i with
    | failure stderr => exact ⟨rfl, rfl⟩
    | success loaded => exact ⟨rfl, d, n, rfl⟩

/-- The directory for a crate is made in both worlds or in neither, and there its text can be written in both
or in neither. -/
theorem ensureDirectory_alike (dir text : String) (h : Twins w v) (hfree : w.Undisturbed)
    (hsolid : w.disk.Solid w.cwd) (hsolid' : v.disk.Solid w.cwd) (hroom : w.disk.SameRoom v.disk w.cwd dir) :
    Alike (Action.ensureDirectory dir) w v fun _ w' v' =>
      Twins w' v' ∧ Alike (Action.writeFile (join dir "lib.rs") text) w' v' fun _ => Twins := by
  obtain ⟨d, n, rfl⟩ := h
  refine .of_ends (Action.ensureDirectory_prepared _ hfree hsolid)
    (Action.ensureDirectory_prepared _ hfree hsolid') ?_ ?_ ?_ ?_
  · intro _ w' _ v' ⟨hw, hhold, hmade⟩ ⟨hv, _, hmade'⟩
    obtain ⟨d₁, n₁, rfl⟩ := hw.eq
    obtain ⟨d₂, n₂, rfl⟩ := hv.eq
    exact ⟨rfl, ⟨d₂, n₂, rfl⟩,
      writeFile_alike ⟨d₂, n₂, rfl⟩ hfree (hroom.write_iff hhold hmade hmade')⟩
  · rintro _ w' _ v' ⟨hw, -, cause, rfl⟩ ⟨hv, -, cause', rfl⟩
    obtain ⟨d₁, n₁, rfl⟩ := hw.eq
    obtain ⟨d₂, n₂, rfl⟩ := hv.eq
    exact ⟨rfl, rfl⟩
  · exact fun _ _ _ _ ⟨_, hhold, _⟩ ⟨_, hnot, _⟩ => hnot (hroom.hold.2 hhold)
  · exact fun _ _ _ _ ⟨_, hnot, _⟩ ⟨_, hhold, _⟩ => hnot (hroom.hold.1 hhold)

/-- **Compiling** ends alike in both worlds if there is the same room for the crate. -/
theorem build_alike (arena : Arena) (units : List String) (label : String) (origin : Origin)
    (h : Twins w v) (hfree : w.Undisturbed) (hsolid : w.disk.Solid w.cwd) (hsolid' : v.disk.Solid w.cwd)
    (hroom : w.disk.SameRoom v.disk w.cwd (c.crateDir (crateName label (w.ids w.drawn)))) :
    Alike (c.build arena units label origin) w v fun _ => Twins := by
  obtain ⟨d, n, rfl⟩ := h
  refine Alike.bind (R := fun _ w' v' => w = w' ∧ v' = { w with disk := d, operations := n })
    (.ofExcept rfl fun _ _ => ⟨rfl, rfl⟩) ?_
  rintro targets _ _ ⟨rfl, rfl⟩
  refine Alike.bind (R := fun id w' v' => id = w.ids w.drawn ∧ w' = { w with drawn := w.drawn + 1 } ∧
    v' = { w' with disk := d, operations := n }) ⟨rfl, rfl, rfl, rfl⟩ ?_
  rintro _ _ _ ⟨rfl, rfl, rfl⟩
  have hdirectory := ensureDirectory_alike (c.crateDir (crateName label (w.ids w.drawn)))
    (crateOf targets (references arena)).text (w := { w with drawn := w.drawn + 1 }) ⟨d, n, rfl⟩ hfree hsolid
    hsolid' hroom
  refine hdirectory.bind fun _ w' v' ⟨htwins, hwrite⟩ => ?_
  have hsame : v'.invocations = w'.invocations := by
    obtain ⟨_, _, rfl⟩ := htwins
    rfl
  dsimp only
  split
  · exact Alike.bind (R := fun _ _ _ => False) (.throw hsame) fun _ _ _ h => h.elim
  · refine hwrite.bind fun _ w₁ v₁ h₁ => ?_
    refine (invoke_alike _ _ h₁).bind fun loaded w₂ v₂ h₂ => ?_
    split
    · refine .throw ?_
      obtain ⟨_, _, rfl⟩ := h₂
      rfl
    · exact .pure h₂

end Compiler

/-! ## The start -/

namespace Foundry

variable {s : Settings} {w : World} {d : Disk}

/-- The directory of the crate that is compiled at the start. -/
abbrev assemblyDir (s : Settings) (w : World) : String :=
  (compilerOf s).crateDir (crateName "assembly" (w.ids w.drawn))

/-- **The disk is cluttered.** It has all that the disk of the world has. What was added right in the
directories of units is junk, and nothing that was added changes where the paths of these directories lead or
is in the way of the crate. -/
structure Clutters (s : Settings) (w : World) (d : Disk) : Prop where
  kept : Extends w.disk d
  junk : ∀ dir ∈ s.sourceDir :: s.staticDirs, ∀ file e,
    Adds w.disk d (place w.cwd dir ++ [file]) e → Store.Junk file e
  passes : ∀ dir ∈ s.sourceDir :: s.staticDirs, Passes w.disk d (startAt w.cwd dir) (partsOf dir)
  clear : ∀ ps c, ps <+: partsOf (assemblyDir s w) →
    ¬ Adds w.disk d (walk (startAt w.cwd (assemblyDir s w)) ps) (.file c)
  text : ¬ Adds w.disk d (place w.cwd (assemblyDir s w) ++ ["lib.rs"]) .directory

namespace Clutters

/-- There is the same room for the crate. -/
theorem sameRoom (h : Clutters s w d) : w.disk.SameRoom d w.cwd (assemblyDir s w) := by
  refine ⟨?_, ?_⟩
  · constructor
    · intro ⟨hnul, hfits, hclear⟩
      exact ⟨hnul, hfits, fun ps hps c hc => hclear ps hps c (h.kept _ _ hc)⟩
    · intro ⟨hnul, hfits, hclear⟩
      refine ⟨hnul, hfits, fun ps hps c hc => ?_⟩
      exact (h.kept.cases hc).elim (hclear ps hps c) (h.clear ps c hps)
  · exact ⟨fun hdir => (h.kept.cases hdir).resolve_right h.text, h.kept _ _⟩

/-- The same units are gathered on both disks. -/
theorem gathers_iff (h : Clutters s w d) (hsolid : w.disk.Solid w.cwd) (hsolid' : d.Solid w.cwd)
    {texts : List String} : Gathers d w.cwd (s.sourceDir :: s.staticDirs) texts ↔
      Gathers w.disk w.cwd (s.sourceDir :: s.staticDirs) texts := by
  have hunits : ∀ dir ∈ s.sourceDir :: s.staticDirs, ∀ name text,
      Store.IsUnitIn d w.cwd dir name text ↔ Store.IsUnitIn w.disk w.cwd dir name text :=
    fun dir hdir _ _ => Store.isUnitIn_congr hsolid hsolid' h.kept (h.passes dir hdir) (h.junk dir hdir)
  exact ⟨fun hgathers => hgathers.congr hunits,
    fun hgathers => hgathers.congr fun dir hdir name text => (hunits dir hdir name text).symm⟩

/-- The same units are collected in both worlds, or in neither. -/
theorem storedUnits_alike (h : Clutters s w d) (hfree : w.Undisturbed) (hsolid : w.disk.Solid w.cwd)
    (hdistinct : w.disk.Distinct) (hsolid' : d.Solid w.cwd) (hdistinct' : d.Distinct) :
    Alike (storedUnits (s.sourceDir :: s.staticDirs)) w { w with disk := d } fun _ w' v' =>
      ∃ n m, w' = { w with operations := n } ∧ v' = { w with disk := d, operations := m } := by
  have htells : w.Tells := fun n o ho => by simp [hfree n] at ho
  have hcollectable : ∀ dir ∈ s.sourceDir :: s.staticDirs,
      (Store.Collectable d w.cwd dir ↔ Store.Collectable w.disk w.cwd dir) :=
    fun dir hdir => Store.collectable_congr hsolid hsolid' h.kept (h.passes dir hdir) (h.junk dir hdir)
  refine .of_ends (storedUnits_gathers _ htells hdistinct)
    (storedUnits_gathers (w := { w with disk := d }) _ htells hdistinct') ?_ ?_ ?_ ?_
  · rintro texts _ texts' _ ⟨⟨n, rfl⟩, hgathers, -⟩ ⟨⟨m, rfl⟩, hgathers', -⟩
    exact ⟨hgathers.unique ((h.gathers_iff hsolid hsolid').1 hgathers'), n, m, rfl, rfl⟩
  · rintro _ _ _ _ ⟨⟨n, rfl⟩, ⟨path, cause, rfl⟩, -⟩ ⟨⟨m, rfl⟩, ⟨path', cause', rfl⟩, -⟩
    exact ⟨rfl, rfl⟩
  · intro _ _ _ _ ⟨_, _, hall⟩ ⟨_, _, hfailed⟩
    obtain ⟨dir, hdir, hnot⟩ := hfailed hfree
    exact hnot ((hcollectable dir hdir).2 (hall dir hdir))
  · intro _ _ _ _ ⟨_, _, hfailed⟩ ⟨_, _, hall⟩
    obtain ⟨dir, hdir, hnot⟩ := hfailed hfree
    exact hnot ((hcollectable dir hdir).1 (hall dir hdir))

/-- **The start ends alike** with the clutter and without it. -/
theorem start_alike (h : Clutters s w d) (hs : s.preload = true) (hfree : w.Undisturbed)
    (hsolid : w.disk.Solid w.cwd) (hdistinct : w.disk.Distinct) (hsolid' : d.Solid w.cwd)
    (hdistinct' : d.Distinct) : Alike (start s) w { w with disk := d } fun _ => Twins := by
  refine Alike.bind (R := fun _ w' v' => w = w' ∧ v' = { w with disk := d })
    (.ofExcept rfl fun _ _ => ⟨rfl, rfl⟩) ?_
  rintro _ _ _ ⟨rfl, rfl⟩
  refine Alike.bind (R := fun _ w' v' => w = w' ∧ v' = { w with disk := d })
    (.ofExcept rfl fun _ _ => ⟨rfl, rfl⟩) ?_
  rintro modules _ _ ⟨rfl, rfl⟩
  dsimp only
  rw [if_pos hs]
  refine (h.storedUnits_alike hfree hsolid hdistinct hsolid' hdistinct').bind ?_
  rintro texts _ _ ⟨n, m, rfl, rfl⟩
  split
  · exact .pure ⟨d, m, rfl⟩
  · have hbuild := Compiler.build_alike (c := compilerOf s) (w := { w with operations := n }) .empty texts
      "assembly" .assembly ⟨d, m, rfl⟩ hfree hsolid hsolid' h.sameRoom
    exact hbuild.bind fun _ _ _ h => .pure h

end Clutters

/-- **What opening comes to depends on the units only.** The units in the directories are one list of texts,
that of the files that are units, one directory after the other and sorted by name in each. Opening compiles
them if there are any, and hands over one crate at most. If the disk is cluttered the list is the same, and
opening ends with the same foundry, or in a halt of the same category, and hands over the same crate. -/
theorem start_ignores_clutter {s : Settings} {w : World} (hs : s.preload = true) (htells : w.Tells)
    (hsolid : w.disk.Solid w.cwd) (hdistinct : w.disk.Distinct) :
    (∃ texts, Gathers w.disk w.cwd (s.sourceDir :: s.staticDirs) texts ∧
      ∀ texts', Gathers w.disk w.cwd (s.sourceDir :: s.staticDirs) texts' → texts' = texts) ∧
    (∀ r w', (start s).run w = (r, w') → Opens s w r w') ∧
    ∀ d, w.Undisturbed → d.Solid w.cwd → d.Distinct → Clutters s w d →
      (∀ texts, Gathers d w.cwd (s.sourceDir :: s.staticDirs) texts ↔
        Gathers w.disk w.cwd (s.sourceDir :: s.staticDirs) texts) ∧
      ((start s).run { w with disk := d }).1.mapError Halt.kind? = ((start s).run w).1.mapError Halt.kind? ∧
      ((start s).run { w with disk := d }).2.invocations = ((start s).run w).2.invocations := by
  obtain ⟨texts, htexts⟩ := exists_gathers hdistinct (s.sourceDir :: s.staticDirs)
  refine ⟨⟨texts, htexts, fun _ => htexts.unique⟩, fun r w' hrun => ?_, ?_⟩
  · cases r with
    | ok f => exact (start_opens hs htells hdistinct).of_ok hrun
    | error h => exact (start_opens hs htells hdistinct).of_error hrun
  · intro d hfree hsolid' hdistinct' hclutters
    exact ⟨fun _ => hclutters.gathers_iff hsolid hsolid',
      (hclutters.start_alike hs hfree hsolid hdistinct hsolid' hdistinct').same⟩

end Foundry

/-! ## A directory with clutter -/

/-- The disk of a directory with one unit. -/
def tidyDisk : Disk := (Disk.empty.put ["units"] .directory).put ["units", "T.rs"] (.file (.text nodeText))

/-- The world with that disk. -/
def World.tidy : World := { World.planted with disk := tidyDisk }

/-- The disk of the same directory with all kinds of junk in it. -/
def litteredDisk : Disk :=
  (((tidyDisk.put ["units", "notes"] (.file (.binary [255]))).put
    ["units", ".U.rs"] (.file (.text nodeText))).put
    ["units", "U.rs"] (.file (.text "struct"))).put ["units", "V.rs"] .directory

theorem solid_put_units {d : Disk} {name : String} {e : Entry} (h : d.Solid [])
    (hdir : d.entry? ["units"] = some .directory) (hname : IsFileName name)
    (hfree : d.entry? ["units", name] ≠ some .directory) : (d.put ["units", name] e).Solid [] :=
  (h.put (show ["units", name] = ["units"] ++ [name] from rfl) hdir hname hfree).1

theorem solid_tidy : tidyDisk.Solid [] := by
  have hname : IsFileName "units" := ⟨by decide, by decide, by decide, by decide⟩
  have hdir := (solid_empty.put (e := .directory) (List.nil_append ["units"]).symm rfl hname (by decide)).1
  exact solid_put_units hdir rfl ⟨by decide, by decide, by decide, by decide⟩ (by decide)

theorem solid_littered : litteredDisk.Solid [] := by
  refine solid_put_units ?_ rfl ⟨by decide, by decide, by decide, by decide⟩ (by decide)
  refine solid_put_units ?_ rfl ⟨by decide, by decide, by decide, by decide⟩ (by decide)
  refine solid_put_units ?_ rfl ⟨by decide, by decide, by decide, by decide⟩ (by decide)
  exact solid_put_units solid_tidy rfl ⟨by decide, by decide, by decide, by decide⟩ (by decide)

theorem distinct_tidy : tidyDisk.Distinct := distinct_put (distinct_put distinct_empty _ _) _ _

theorem distinct_littered : litteredDisk.Distinct :=
  distinct_put (distinct_put (distinct_put (distinct_put distinct_tidy _ _) _ _) _ _) _ _

/-- All that was added is junk in the directory. -/
theorem junk_of_adds_littered {loc : Location} {e : Entry} (h : Adds tidyDisk litteredDisk loc e) :
    ∃ file, loc = ["units", file] ∧ Store.Junk file e := by
  obtain ⟨rfl, rfl⟩ | h := h.of_put (by decide)
  · exact ⟨_, rfl, .directory⟩
  obtain ⟨rfl, rfl⟩ | h := h.of_put (by decide)
  · exact ⟨_, rfl, .unparsed (by decide +kernel)⟩
  obtain ⟨rfl, rfl⟩ | h := h.of_put (by decide)
  · exact ⟨_, rfl, .hidden (by decide)⟩
  obtain ⟨rfl, rfl⟩ | h := h.of_put (by decide)
  · exact ⟨_, rfl, .extension (by decide)⟩
  exact absurd h not_adds_self

namespace Foundry

theorem clutters_littered : Clutters plantedSettings .tidy litteredDisk := by
  have hplace : place World.tidy.cwd "units" = ["units"] := by decide +kernel
  have hparts : partsOf "units" = ["units"] := by decide +kernel
  have hstart : startAt World.tidy.cwd "units" = [] := by decide +kernel
  refine ⟨((((Extends.refl _).put rfl).put rfl).put rfl).put rfl, ?_, ?_, ?_, ?_⟩
  · intro dir hdir file e hadds
    have hdir : dir = "units" := List.mem_singleton.1 hdir
    obtain ⟨file', hloc, hjunk⟩ := junk_of_adds_littered hadds
    obtain rfl : file = file' := by simpa [hdir, hplace] using hloc
    exact hjunk
  · intro dir hdir ps part rest loc e hps hfollow hadds
    have hdir : dir = "units" := List.mem_singleton.1 hdir
    obtain ⟨rfl, -⟩ : ps = [] ∧ part :: rest = ["units"] := by
      simpa [hdir, hparts, List.append_eq_singleton_iff, eq_comm] using hps
    obtain ⟨file, hloc, -⟩ := junk_of_adds_littered hadds
    obtain rfl : loc = [] := by simpa [hdir, hstart] using (Except.ok.inj hfollow).symm
    simp at hloc
  · -- the crate does not lie in the directory
    have houter : ∀ n < (partsOf (assemblyDir plantedSettings .tidy)).length + 1,
        (walk (startAt World.tidy.cwd (assemblyDir plantedSettings .tidy))
          ((partsOf (assemblyDir plantedSettings .tidy)).take n)).head? ≠ some "units" := by
      decide +kernel
    intro ps c hps hadds
    obtain ⟨file, hloc, -⟩ := junk_of_adds_littered hadds
    rw [List.prefix_iff_eq_take.1 hps] at hloc
    exact houter _ (Nat.lt_succ_of_le hps.length_le) (congrArg List.head? hloc)
  · have houter : (place World.tidy.cwd (assemblyDir plantedSettings .tidy) ++ ["lib.rs"]).head? ≠
        some "units" := by decide +kernel
    intro hadds
    obtain ⟨file, hloc, -⟩ := junk_of_adds_littered hadds
    exact houter (congrArg List.head? hloc)

/-- The junk in the directory is not noticed. -/
theorem start_littered :
    let v := { World.tidy with disk := litteredDisk }
    Gathers v.disk v.cwd ["units"] [nodeText] ∧
      ((start plantedSettings).run v).1.mapError Halt.kind? = .ok planted ∧
      ((start plantedSettings).run v).2.invocations = ((start plantedSettings).run .tidy).2.invocations := by
  intro v
  have htells : World.tidy.Tells := fun n o ho => nomatch ho
  obtain ⟨-, hopens, hclutter⟩ :=
    start_ignores_clutter (s := plantedSettings) (w := .tidy) rfl htells solid_tidy distinct_tidy
  obtain ⟨hgathers, hsame, hinvocations⟩ :=
    hclutter litteredDisk (fun _ => rfl) solid_littered distinct_littered clutters_littered
  have hok : ((start plantedSettings).run .tidy).1 = .ok planted := by decide +kernel
  refine ⟨(hgathers _).2 ?_, hsame.trans (congrArg _ hok), hinvocations⟩
  cases hopens _ _ (Prod.ext hok rfl) with
  | bare _ hbare => exact absurd hbare (by decide)
  | compiled htexts _ hunits =>
    obtain rfl : [nodeText] = _ := hunits
    exact htexts

/-- **Not everything that is junk is overlooked**: a file can lie where a further directory would lie. -/
theorem start_obstructed : ¬ ∀ (s : Settings) (w : World) (d : Disk), s.preload = true → w.Undisturbed →
    w.disk.Solid w.cwd → w.disk.Distinct → d.Solid w.cwd → d.Distinct → Extends w.disk d →
    (∀ loc e, Adds w.disk d loc e → ∃ dir ∈ s.sourceDir :: s.staticDirs, ∃ file,
      loc = place w.cwd dir ++ [file] ∧ Store.Junk file e) →
    ((start s).run { w with disk := d }).1.mapError Halt.kind? = ((start s).run w).1.mapError Halt.kind? := by
  intro h
  let s : Settings := { plantedSettings with sourceDir := "a", staticDirs := ["a/b"] }
  let w : World := { World.planted with disk := Disk.empty.put ["a"] .directory }
  have hname : ∀ name ∈ ["a", "b"], IsFileName name := by
    intro name hmem
    refine ⟨?_, ?_, ?_, ?_⟩ <;> revert name <;> decide
  have hsolid : w.disk.Solid [] :=
    (solid_empty.put (List.nil_append ["a"]).symm rfl (hname "a" (by decide)) (by decide)).1
  have hsolid' : (w.disk.put ["a", "b"] (.file (.text "notes"))).Solid [] :=
    (hsolid.put (show ["a", "b"] = ["a"] ++ ["b"] from rfl) rfl (hname "b" (by decide)) (by decide)).1
  have hsame := h s w (w.disk.put ["a", "b"] (.file (.text "notes"))) rfl (fun _ => rfl) hsolid
    (distinct_put distinct_empty _ _) hsolid' (distinct_put (distinct_put distinct_empty _ _) _ _)
    ((Extends.refl _).put rfl) ?_
  · revert hsame
    decide +kernel
  · intro loc e hadds
    obtain ⟨rfl, rfl⟩ := (hadds.of_put (by decide)).resolve_right not_adds_self
    exact ⟨"a", List.mem_cons_self, "b", by decide +kernel, .extension (by decide)⟩

end Foundry

end TypeFoundry
