import TypeFoundry.Proofs.Clutter
import TypeFoundry.Proofs.Holding

/-!
# What a foundry starts from

At the start the units of all directories are collected, one directory after the other and sorted by name in
each (`Gathers`). They are compiled into one crate, and nothing is compiled if there are none. `Opens` says
what opening a foundry can come to, and with which crate handed to the toolchain.
-/

set_option autoImplicit false

namespace TypeFoundry

open Files Files.Disk Source

namespace Store

/-- The units in the directory, by name and text, sorted by name. -/
structure UnitsIn (d : Disk) (cwd : Location) (dir : String) (units : List (String × String)) : Prop where
  sorted : units.Pairwise fun u v => compare u.1 v.1 = .lt
  mem_iff : ∀ name text, (name, text) ∈ units ↔ IsUnitIn d cwd dir name text

/-- The units in a directory are listed in one way. -/
theorem UnitsIn.unique {d : Disk} {cwd : Location} {dir : String} {units units' : List (String × String)}
    (h : UnitsIn d cwd dir units) (h' : UnitsIn d cwd dir units') : units' = units := by
  have hnodup : ∀ {us : List (String × String)},
      (us.Pairwise fun u v => compare u.1 v.1 = .lt) → us.Nodup := by
    intro us hus
    refine hus.imp fun {u v} huv heq => ?_
    simp [heq, Std.ReflCmp.compare_self] at huv
  have hperm : units'.Perm units := by
    rw [List.perm_ext_iff_of_nodup (hnodup h'.sorted) (hnodup h.sorted)]
    intro (name, text)
    rw [h.mem_iff, h'.mem_iff]
  refine hperm.eq_of_pairwise (fun u v _ _ huv hvu => ?_) h'.sorted h.sorted
  have hswap : compare v.1 u.1 = (compare u.1 v.1).swap := Std.OrientedCmp.eq_swap
  rw [hvu, huv] at hswap
  cases hswap

end Store

/-- The texts are those of the units in the directories, one directory after the other. -/
inductive Gathers (d : Disk) (cwd : Location) : List String → List String → Prop where
  | nil : Gathers d cwd [] []
  | cons {dir : String} {dirs texts : List String} {units : List (String × String)} :
    Store.UnitsIn d cwd dir units → Gathers d cwd dirs texts →
    Gathers d cwd (dir :: dirs) (units.map Prod.snd ++ texts)

namespace Gathers

variable {d d' : Disk} {cwd : Location} {dirs texts texts' : List String}

/-- The units of the directories are gathered in one way. -/
theorem unique (h : Gathers d cwd dirs texts) (h' : Gathers d cwd dirs texts') : texts' = texts := by
  induction h generalizing texts' with
  | nil =>
    cases h'
    rfl
  | cons hunits _ ih =>
    cases h' with
    | cons hunits' hrest => rw [hunits.unique hunits', ih hrest]

/-- What is gathered depends on the units only. -/
theorem congr (h : Gathers d cwd dirs texts) (hsame : ∀ dir ∈ dirs, ∀ name text,
    Store.IsUnitIn d cwd dir name text ↔ Store.IsUnitIn d' cwd dir name text) :
    Gathers d' cwd dirs texts := by
  induction h with
  | nil => exact .nil
  | cons hunits _ ih =>
    obtain ⟨hdir, hdirs⟩ := List.forall_mem_cons.1 hsame
    exact .cons ⟨hunits.sorted, fun name text => (hunits.mem_iff name text).trans (hdir name text)⟩ (ih hdirs)

end Gathers

namespace Foundry

variable {w : World}

theorem Counted.undisturbed {w' : World} (h : Counted w w') (hfree : w.Undisturbed) : w'.Undisturbed := by
  obtain ⟨n, rfl⟩ := h
  exact hfree

/-- The files of the units in the directory, each with the name of its unit, sorted. -/
structure FilesIn (d : Disk) (cwd : Location) (dir : String) (files : List (String × String)) : Prop where
  sorted : files.Pairwise fun u v => compare u.1 v.1 = .lt
  mem_iff : ∀ name file, (name, file) ∈ files ↔ Store.IsUnitName name ∧
    file = join dir (name ++ Store.ending) ∧ ∃ c, d.HoldsIn cwd dir (name ++ Store.ending) c

/-- Each name is listed once. -/
theorem nodup_of_list {d : Disk} {cwd : Location} {dir : String} {files : List String} (h : d.Distinct)
    (hlist : d.list cwd dir = .ok files) : files.Nodup := by
  rw [list_ok hlist, (List.mergeSort_perm _ _).nodup_iff]
  exact nodup_names h _

/-- The files that are listed are those of the units. -/
theorem filesIn_of_list {d : Disk} {cwd : Location} {dir : String} {files : List String}
    (hdistinct : d.Distinct) (hlist : d.list cwd dir = .ok files) :
    FilesIn d cwd dir ((files.filterMap fun file =>
      if d.isFile cwd (join dir file) then
        (Store.unitName? file).map fun name => (name, join dir file)
      else none).mergeSort fun a b => compare a.1 b.1 != .gt) := by
  have hentry : ∀ {file : String} {u : String × String},
      (if d.isFile cwd (join dir file) then
        (Store.unitName? file).map fun name => (name, join dir file) else none) = some u ↔
      d.isFile cwd (join dir file) = true ∧ Store.unitName? file = some u.1 ∧ u.2 = join dir file := by
    intro file u
    obtain ⟨name, path⟩ := u
    rw [Option.ite_none_right_eq_some, Option.map_eq_some_iff]
    refine and_congr_right fun _ => ⟨fun ⟨name', hname, h⟩ => ?_, fun ⟨hname, h⟩ => ⟨name, hname, ?_⟩⟩
    · obtain ⟨rfl, rfl⟩ := Prod.mk.inj h
      exact ⟨hname, rfl⟩
    · exact Prod.ext rfl h.symm
  constructor
  · refine Store.pairwise_mergeSort (List.Nodup.map_on ?_ ?_)
    · -- two files of one unit are the same file
      intro u hu v hv hname
      obtain ⟨file, -, hfile⟩ := List.mem_filterMap.1 hu
      obtain ⟨file', -, hfile'⟩ := List.mem_filterMap.1 hv
      obtain ⟨-, hunit, hpath⟩ := hentry.1 hfile
      obtain ⟨-, hunit', hpath'⟩ := hentry.1 hfile'
      refine Prod.ext hname ?_
      rw [hpath, hpath', Store.eq_of_unitName? hunit, Store.eq_of_unitName? hunit', hname]
    · refine List.Nodup.filterMap (fun file file' u hfile hfile' => ?_) (nodup_of_list hdistinct hlist)
      obtain ⟨-, hunit, -⟩ := hentry.1 hfile
      obtain ⟨-, hunit', -⟩ := hentry.1 hfile'
      rw [Store.eq_of_unitName? hunit, Store.eq_of_unitName? hunit']
  · intro name path
    rw [List.mem_mergeSort, List.mem_filterMap]
    simp only [hentry, Store.unitName?_eq_some_iff]
    constructor
    · rintro ⟨_, hfile, hisFile, ⟨rfl, hempty, hdot⟩, hpath⟩
      obtain ⟨c, hc⟩ := isFile_iff.1 hisFile
      exact ⟨⟨hempty, hdot⟩, hpath, c, ⟨files, hlist, hfile⟩, hc⟩
    · intro ⟨hnamed, hpath, c, ⟨files', hlist', hfile⟩, hc⟩
      obtain rfl := Except.ok.inj (hlist.symm.trans hlist')
      exact ⟨_, hfile, isFile_iff.2 ⟨c, hc⟩, ⟨rfl, hnamed.ne_empty, hnamed.noDot⟩, hpath⟩

/-- The text of the file, if it can be read and is a unit. -/
def unitText? (d : Disk) (cwd : Location) (file : String) : Option String :=
  (d.read cwd file).toOption.filter fun text => (SourceUnit.read? text).isSome

/-- **The files of the units** are listed, or the directory cannot be. -/
theorem unitsIn_files (dir : String) (htells : w.Tells) (hdistinct : w.disk.Distinct) :
    Ends (Store.unitsIn dir) w
      (fun files w' => Counted w w' ∧ FilesIn w.disk w.cwd dir files ∧
        ∀ cause, cause ≠ .notFound → w.disk.list w.cwd dir ≠ .error cause)
      fun h w' => Counted w w' ∧ Unread h ∧
        (w.Undisturbed → ∃ cause, cause ≠ .notFound ∧ w.disk.list w.cwd dir = .error cause) := by
  refine (unitsIn_answers dir).mono ?_ ?_
  · intro files w' ⟨hcounted, hfiles⟩
    cases hmet : w.met? with
    | some cause =>
      -- nothing seems to be missing that is there
      obtain ⟨o, ho, rfl⟩ := Option.map_eq_some_iff.1 hmet
      rw [World.answer_met hmet] at hfiles
      rcases hfiles with ⟨_, hlist, -⟩ | ⟨hmissing, -⟩
      · cases hlist
      · exact absurd (Except.error.inj hmissing) (htells _ o ho)
    | none =>
      rw [World.answer_free hmet] at hfiles
      rcases hfiles with ⟨listed, hlist, rfl⟩ | ⟨hmissing, rfl⟩
      · exact ⟨hcounted, filesIn_of_list hdistinct hlist, by simp [hlist]⟩
      · refine ⟨hcounted, ⟨.nil, fun name file => ?_⟩, by simp [hmissing, eq_comm]⟩
        refine iff_of_false List.not_mem_nil fun ⟨_, _, c, hc⟩ => ?_
        obtain ⟨listed, hlist, -⟩ := hc.listed
        cases hmissing.symm.trans hlist
  · rintro _ w' ⟨hcounted, cause, rfl, hfound, hlist⟩
    refine ⟨hcounted, ⟨dir, cause, rfl⟩, fun hfree => ⟨cause, hfound, ?_⟩⟩
    rwa [World.answer_free hfree.met?] at hlist

/-- **The texts that are kept** are those of the files that are units, in their order. -/
theorem readUnits_texts (files : List (String × String)) :
    Ends (readUnits files) w
      (fun texts w' => Counted w w' ∧ texts = files.filterMap (fun entry => unitText? w.disk w.cwd entry.2) ∧
        ∀ entry ∈ files, ∃ text, w.disk.read w.cwd entry.2 = .ok text)
      fun h w' => Counted w w' ∧ Unread h ∧
        (w.Undisturbed → ∃ entry ∈ files, ∀ text, w.disk.read w.cwd entry.2 ≠ .ok text) := by
  induction files generalizing w with
  | nil => exact ends_pure ⟨Counted.refl w, rfl, by simp⟩
  | cons entry files ih =>
    obtain ⟨name, file⟩ := entry
    refine (look_answers _).bind ?_ (fun _ _ h => h.elim)
    rintro r _ ⟨hr, n, rfl⟩
    cases r with
    | error cause =>
      refine ends_throw ⟨⟨n, rfl⟩, ⟨file, cause, rfl⟩, fun hfree => ⟨_, List.mem_cons_self, fun text => ?_⟩⟩
      rw [World.answer_free hfree.met?] at hr
      simp [← hr]
    | ok source =>
      have hsource : w.disk.read w.cwd file = .ok source := by
        cases hmet : w.met? with
        | none => rw [World.answer_free hmet] at hr; exact hr.symm
        | some cause => rw [World.answer_met hmet] at hr; cases hr
      refine (ih (w := { w with operations := n })).bind ?_ ?_
      · rintro others w' ⟨hcounted, hothers, hread⟩
        have hcounted := Counted.trans ⟨n, rfl⟩ hcounted
        have hread : ∀ entry ∈ (name, file) :: files, ∃ text, w.disk.read w.cwd entry.2 = .ok text :=
          List.forall_mem_cons.2 ⟨⟨source, hsource⟩, hread⟩
        split
        · rename_i hunit
          have hkept : unitText? w.disk w.cwd file = some source := by
            simp [unitText?, hsource, Except.toOption, hunit]
          exact ends_pure ⟨hcounted, by simp [hothers, hkept], hread⟩
        · rename_i hunit
          have hskipped : unitText? w.disk w.cwd file = none := by
            simp [unitText?, hsource, Except.toOption, Option.filter, hunit]
          exact ends_pure ⟨hcounted, by simp [hothers, hskipped], hread⟩
      · rintro h w' ⟨hcounted, hunread, hfailed⟩
        refine ⟨Counted.trans ⟨n, rfl⟩ hcounted, hunread, fun hfree => ?_⟩
        obtain ⟨entry, hentry, hnone⟩ := hfailed hfree
        exact ⟨entry, List.mem_cons_of_mem _ hentry, hnone⟩

theorem unitText?_eq_some {d : Disk} {cwd : Location} {file text : String} :
    unitText? d cwd file = some text ↔
      d.content cwd file = .ok (.text text) ∧ (SourceUnit.read? text).isSome = true := by
  rw [unitText?, Option.filter_eq_some_iff, toOption_eq_some, read_eq_ok]

namespace FilesIn

variable {d : Disk} {cwd : Location} {dir : String} {files : List (String × String)}

/-- What the files of the units hold are the units. -/
theorem units (h : FilesIn d cwd dir files) : ∃ units, Store.UnitsIn d cwd dir units ∧
    files.filterMap (fun entry => unitText? d cwd entry.2) = units.map Prod.snd := by
  refine ⟨files.filterMap fun entry => (unitText? d cwd entry.2).map fun text => (entry.1, text),
    ⟨?_, ?_⟩, ?_⟩
  · refine List.Pairwise.filterMap _ (fun u v huv u' hu' v' hv' => ?_) h.sorted
    obtain ⟨_, -, rfl⟩ := Option.map_eq_some_iff.1 hu'
    obtain ⟨_, -, rfl⟩ := Option.map_eq_some_iff.1 hv'
    exact huv
  · intro name text
    simp only [List.mem_filterMap, Option.map_eq_some_iff, unitText?_eq_some, Prod.mk.injEq, Prod.exists,
      h.mem_iff]
    constructor
    · rintro ⟨_, _, ⟨hnamed, rfl, c, hc⟩, _, ⟨hcontent, hparses⟩, rfl, rfl⟩
      exact ⟨hnamed, ⟨hc.listed, hcontent⟩, hparses⟩
    · intro h
      exact ⟨name, _, ⟨h.named, rfl, _, h.holds⟩, text, ⟨h.holds.content, h.parses⟩, rfl, rfl⟩
  · rw [List.map_filterMap]
    refine List.filterMap_congr fun entry _ => ?_
    cases unitText? d cwd entry.2 <;> rfl

/-- The units can be collected just if all files of units can be read. -/
theorem collectable_iff (h : FilesIn d cwd dir files)
    (hlisted : ∀ cause, cause ≠ .notFound → d.list cwd dir ≠ .error cause) :
    Store.Collectable d cwd dir ↔ ∀ entry ∈ files, ∃ text, d.read cwd entry.2 = .ok text := by
  simp only [read_eq_ok]
  constructor
  · intro ⟨_, htexts⟩ (name, file) hentry
    obtain ⟨hnamed, rfl, c, hc⟩ := (h.mem_iff name file).1 hentry
    cases c with
    | text text => exact ⟨text, hc.content⟩
    | binary bytes => exact absurd hc (htexts name bytes hnamed)
  · intro hread
    refine ⟨hlisted, fun name bytes hnamed hholds => ?_⟩
    obtain ⟨text, htext⟩ := hread _ ((h.mem_iff _ _).2 ⟨hnamed, rfl, _, hholds⟩)
    cases hholds.content.symm.trans htext

end FilesIn

/-- **The start collects** the units of all directories, in their order, unless one cannot be collected. -/
theorem storedUnits_gathers (dirs : List String) (htells : w.Tells) (hdistinct : w.disk.Distinct) :
    Ends (storedUnits dirs) w
      (fun texts w' => Counted w w' ∧ Gathers w.disk w.cwd dirs texts ∧
        ∀ dir ∈ dirs, Store.Collectable w.disk w.cwd dir)
      fun h w' => Counted w w' ∧ Unread h ∧
        (w.Undisturbed → ∃ dir ∈ dirs, ¬ Store.Collectable w.disk w.cwd dir) := by
  induction dirs generalizing w with
  | nil => exact ends_pure ⟨Counted.refl w, .nil, by simp⟩
  | cons dir dirs ih =>
    refine (unitsIn_files dir htells hdistinct).bind ?_ ?_
    · rintro files _ ⟨⟨n, rfl⟩, hfiles, hlisted⟩
      have hcollectable := hfiles.collectable_iff hlisted
      refine (readUnits_texts files).bind ?_ ?_
      · rintro texts _ ⟨⟨n', rfl⟩, htexts, hread⟩
        refine (ih (w := { w with operations := n' }) htells hdistinct).bind ?_ ?_
        · intro others w' ⟨hcounted, hothers, hrest⟩
          obtain ⟨units, hunits, hmap⟩ := hfiles.units
          refine ends_pure ⟨Counted.trans ⟨n', rfl⟩ hcounted, ?_,
            List.forall_mem_cons.2 ⟨hcollectable.2 hread, hrest⟩⟩
          rw [show texts = units.map Prod.snd from htexts.trans hmap]
          exact .cons hunits hothers
        · intro h w' ⟨hcounted, hunread, hfailed⟩
          refine ⟨Counted.trans ⟨n', rfl⟩ hcounted, hunread, fun hfree => ?_⟩
          obtain ⟨dir', hdir', hnot⟩ := hfailed hfree
          exact ⟨dir', List.mem_cons_of_mem _ hdir', hnot⟩
      · rintro h w' ⟨hcounted, hunread, hfailed⟩
        refine ⟨Counted.trans ⟨n, rfl⟩ hcounted, hunread, fun hfree => ⟨dir, List.mem_cons_self, fun h => ?_⟩⟩
        obtain ⟨entry, hentry, hnone⟩ := hfailed hfree
        obtain ⟨text, htext⟩ := hcollectable.1 h entry hentry
        exact hnone text htext
    · intro h w' ⟨hcounted, hunread, hfailed⟩
      refine ⟨hcounted, hunread, fun hfree => ⟨dir, List.mem_cons_self, fun h => ?_⟩⟩
      obtain ⟨cause, hcause, hlist⟩ := hfailed hfree
      exact h.listed cause hcause hlist

/-- The units of each directory can be listed in one way. -/
theorem exists_gathers {d : Disk} {cwd : Location} (hdistinct : d.Distinct) (dirs : List String) :
    ∃ texts, Gathers d cwd dirs texts := by
  have hunits : ∀ dir, ∃ units, Store.UnitsIn d cwd dir units := by
    intro dir
    cases hlist : d.list cwd dir with
    | ok files =>
      obtain ⟨units, hunits, -⟩ := (filesIn_of_list hdistinct hlist).units
      exact ⟨units, hunits⟩
    | error cause =>
      refine ⟨[], .nil, fun name text => iff_of_false List.not_mem_nil fun h => ?_⟩
      obtain ⟨files, hfiles, -⟩ := h.holds.listed
      cases hfiles.symm.trans hlist
  induction dirs with
  | nil => exact ⟨[], .nil⟩
  | cons dir dirs ih =>
    obtain ⟨units, hunits⟩ := hunits dir
    obtain ⟨texts, htexts⟩ := ih
    exact ⟨_, .cons hunits htexts⟩

/-- **What opening comes to.** The settings are not valid, or a directory cannot be collected, or there are no
units and the foundry starts with nothing, or the units are compiled: then the foundry has them and their
crate was handed over, or it fails and at most that crate was handed over. -/
inductive Opens (s : Settings) (w : World) : Except Halt Foundry → World → Prop where
  | unsettled {e : Failure} {w' : World} : s.check = .error e → w'.invocations = w.invocations →
    Opens s w (.error (.failure e)) w'
  | uncollected {h : Halt} {w' : World} : Unread h →
    (w.Undisturbed → ∃ dir ∈ s.sourceDir :: s.staticDirs, ¬ Store.Collectable w.disk w.cwd dir) →
    w'.invocations = w.invocations → Opens s w (.error h) w'
  | bare {f : Foundry} {w' : World} : Gathers w.disk w.cwd (s.sourceDir :: s.staticDirs) [] →
    f.arena = .empty → f.catalog = .empty → w'.invocations = w.invocations → Opens s w (.ok f) w'
  | compiled {texts : List String} {f : Foundry} {w' : World} :
    Gathers w.disk w.cwd (s.sourceDir :: s.staticDirs) texts → texts ≠ [] → f.arena.units = texts →
    HandedUnits .empty "assembly" texts w w' → Opens s w (.ok f) w'
  | failed {texts : List String} {h : Halt} {w' : World} :
    Gathers w.disk w.cwd (s.sourceDir :: s.staticDirs) texts → texts ≠ [] →
    w'.invocations = w.invocations ∨ HandedUnits .empty "assembly" texts w w' → Opens s w (.error h) w'

theorem segments_of_check {s : Settings} (h : s.check = .ok ()) : ∃ modules, s.segments = .ok modules := by
  unfold Settings.check at h
  cases hs : s.segments with
  | ok modules => exact ⟨modules, rfl⟩
  | error e => rw [hs] at h; cases h

/-- **Opening a foundry** compiles the units that are gathered, if there are any. -/
theorem start_opens {s : Settings} (hs : s.preload = true) (htells : w.Tells) (hdistinct : w.disk.Distinct) :
    Ends (start s) w (fun f w' => Opens s w (.ok f) w') fun h w' => Opens s w (.error h) w' := by
  refine (Action.ofExcept_ends _).bind ?_ ?_
  · rintro _ _ ⟨hcheck, rfl⟩
    rename_i w
    refine (Action.ofExcept_ends _).bind ?_ ?_
    · rintro modules _ ⟨-, rfl⟩
      rename_i w
      dsimp only
      rw [if_pos hs]
      refine (storedUnits_gathers _ htells hdistinct).bind ?_ ?_
      · rintro texts _ ⟨⟨n, rfl⟩, hgathers, -⟩
        split
        · rename_i hempty
          rw [List.isEmpty_iff.1 hempty] at hgathers
          exact ends_pure (.bare hgathers rfl rfl rfl)
        · rename_i hne
          have hne : texts ≠ [] := by simpa using hne
          refine ((build_ends _ _ _ _ _).and (build_hands_units _ _ _ _ _)).bind ?_ fun _ _ h => ?_
          · rintro p w' ⟨⟨hp, -⟩, hhanded⟩
            exact ends_pure (.compiled hgathers hne ((Arena.units_push_empty p).trans hp.units_eq) hhanded)
          · exact .failed hgathers hne h.2
      · rintro h _ ⟨⟨n, rfl⟩, hunread, hfailed⟩
        exact .uncollected hunread hfailed rfl
    · rintro _ _ ⟨e, he, -, -⟩
      obtain ⟨modules, hmodules⟩ := segments_of_check hcheck
      cases he.symm.trans hmodules
  · rintro _ _ ⟨e, he, rfl, rfl⟩
    exact .unsettled he rfl

end Foundry

end TypeFoundry
