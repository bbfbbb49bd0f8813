import TypeFoundry.Proofs.Confinement
import TypeFoundry.Proofs.Entries
import TypeFoundry.Proofs.Steadiness

/-!
# What a foundry collects at the start

The units of a directory are those files in it that are named like units and can be read as such. If
requests wrote the directory, these are all its units: `mem_storedUnits` says that opening a foundry
collects the texts of the stored units and no others.
-/

set_option autoImplicit false

namespace TypeFoundry

open Files Files.Disk Synthesis Source

/-! ## Names of units -/

namespace Store

/-- The file of a unit is its name with the ending, where the name is not empty and does not start with a
dot. -/
theorem unitName?_eq_some_iff {file name : String} :
    unitName? file = some name ↔ file = name ++ ending ∧ name ≠ "" ∧ name.toList.head? ≠ some '.' := by
  constructor
  · intro h
    unfold unitName? at h
    split at h
    · rename_i stem hfile
      split at h
      · cases h
      · rename_i hstem
        obtain rfl := Option.some.inj h
        simp only [Bool.or_eq_true, List.isEmpty_iff, decide_eq_true_eq, not_or] at hstem
        refine ⟨?_, ?_, ?_⟩
        · rw [← String.toList_inj, ← List.reverse_inj, hfile]
          simp [ending]
        · simpa using hstem.1
        · simpa using hstem.2
    · cases h
  · rintro ⟨rfl, hne, hdot⟩
    have hreverse : (name ++ ending).toList.reverse = 's' :: 'r' :: '.' :: name.toList.reverse := by
      simp [ending]
    have hstem : (name.toList.reverse.isEmpty || name.toList.reverse.getLast? = some '.') = false := by
      simpa [hne] using hdot
    simp only [unitName?, hreverse, hstem]
    simp

theorem eq_of_unitName? {file name : String} (h : unitName? file = some name) : file = name ++ ending :=
  (unitName?_eq_some_iff.1 h).1

theorem unitName?_unit {name : String} (h : isIdentifier name = true) :
    unitName? (name ++ ending) = some name := by
  have hdot := not_mem_identifier h (c := '.') (by decide) (by decide) (by decide)
  refine unitName?_eq_some_iff.2 ⟨rfl, ?_, fun hhead => hdot (List.mem_of_mem_head? hhead)⟩
  rintro rfl
  cases h

end Store

theorem Written.isPlain {name text : String} (h : Written name text) : IsPlain name := by
  induction h with
  | create hname => exact hname
  | extend _ _ _ ih => exact ih

theorem Written.readable {name text : String} (h : Written name text) :
    (SourceUnit.read? text).isSome = true := by
  obtain ⟨schema, hwell, -, rfl⟩ := h.schema
  obtain ⟨schema', -, hread⟩ := Schema.read_text hwell
  rw [SourceUnit.read?, hread]
  rfl

/-! ## Units that can be reached -/

/-- Requests wrote all units of the store, and the path of each leads to its file. -/
structure Store.Tidy (s : Store) (w : World) : Prop where
  written : s.AllWritten w
  reaches : ∀ name content, s.unit? w name = some content → s.Reaches w name

theorem Files.Disk.read_eq_ok {d : Disk} {cwd : Location} {path text : String} :
    d.read cwd path = .ok text ↔ d.content cwd path = .ok (.text text) := by
  unfold Disk.read
  cases d.content cwd path with
  | error cause => simp [bind, Except.bind]
  | ok c => cases c <;> simp [bind, Except.bind]

theorem Store.content_eq_unit {s : Store} {w : World} {name : String} {c : Content} (h : s.Reaches w name)
    (hname : isIdentifier name = true) (hunit : s.unit? w name = some c) :
    w.disk.content w.cwd (s.path name) = .ok c := by
  rw [Reaches] at h
  rw [unit?, ← place_path hname, file?_eq_some] at hunit
  simp only [content, h, bind, Except.bind, hunit]

namespace Store.Tidy

variable {s : Store} {w : World} {name text : String}

/-- The file of a stored unit is found and read. -/
theorem found (h : s.Tidy w) (hunit : s.unit? w name = some (.text text)) :
    w.disk.isFile w.cwd (s.path name) = true ∧ w.disk.read w.cwd (s.path name) = .ok text := by
  obtain ⟨_, -, hwritten⟩ := h.written name _ hunit
  have hcontent := content_eq_unit (h.reaches name _ hunit) hwritten.isPlain.isIdentifier hunit
  exact ⟨isFile_iff.2 ⟨_, hcontent⟩, read_eq_ok.2 hcontent⟩

end Store.Tidy

/-! ## Listing and reading -/

/-- Nothing on the disk seems to be missing that is there. -/
def World.Tells (w : World) : Prop := ∀ n o, w.obstacles n = some o → o.cause ≠ .notFound

/-- The cause of the obstacle that the next operation meets, if there is one. -/
def World.met? (w : World) : Option Cause := (w.obstacles w.operations).map (·.cause)

/-- What an operation that looks at the disk answers now: what is there, or the obstacle that it meets. -/
def World.answer {α : Type} (w : World) (f : Disk → Location → Except Cause α) : Except Cause α :=
  match w.met? with
  | some cause => .error cause
  | none => f w.disk w.cwd

theorem World.answer_free {α : Type} {w : World} (h : w.met? = none)
    (f : Disk → Location → Except Cause α) : w.answer f = f w.disk w.cwd := by
  rw [World.answer, h]

theorem World.answer_met {α : Type} {w : World} {cause : Cause} (h : w.met? = some cause)
    (f : Disk → Location → Except Cause α) : w.answer f = .error cause := by
  rw [World.answer, h]

theorem look_answers {α : Type} (f : Disk → Location → Except Cause α) {w : World} :
    Ends (Action.look f) w (fun r w' => r = w.answer f ∧ ∃ n, w' = { w with operations := n })
      fun _ _ => False := by
  have hnext : Ends Action.nextObstacle w
      (fun o w' => w.met? = o.map (·.cause) ∧ ∃ n, w' = { w with operations := n })
      fun _ _ => False := ⟨⟨rfl, _, rfl⟩⟩
  refine hnext.bind (fun o w' h => ?_) (fun _ _ h => h)
  obtain ⟨hmet, n, rfl⟩ := h
  cases o with
  | some o => exact ends_pure ⟨(World.answer_met hmet f).symm, n, rfl⟩
  | none => exact ⟨⟨(World.answer_free hmet f).symm, n, rfl⟩⟩

/-- What is listed are the names in the directory, sorted. -/
theorem list_ok {d : Disk} {cwd : Location} {dir : String} {files : List String}
    (h : d.list cwd dir = .ok files) :
    files = (d.names (place cwd dir)).mergeSort fun a b => compare a b != .gt := by
  unfold list at h
  cases hloc : d.locationOf cwd dir with
  | error e => rw [hloc] at h; cases h
  | ok loc =>
    rw [hloc] at h
    simp only [bind, Except.bind] at h
    split at h
    · rw [← locationOf_eq_place hloc]
      exact (Except.ok.inj h).symm
    · cases h
    · cases h

theorem Arena.units_push_empty (p : PendingModule) : (Arena.empty.push p).units = p.units := by
  simp [Arena.units, Arena.push, Arena.empty, Arena.next, PendingModule.load]

namespace Foundry

variable {w : World}

/-- The units in a directory are those of the files that it lists, sorted, or there are none because it
seems to be missing. -/
theorem unitsIn_answers (dir : String) :
    Ends (Store.unitsIn dir) w
      (fun units w' => Counted w w' ∧
        ((∃ files, w.answer (fun d cwd => d.list cwd dir) = .ok files ∧
          units = (files.filterMap fun file =>
            if w.disk.isFile w.cwd (join dir file) then
              (Store.unitName? file).map fun name => (name, join dir file)
            else none).mergeSort fun a b => compare a.1 b.1 != .gt) ∨
          w.answer (fun d cwd => d.list cwd dir) = .error .notFound ∧ units = []))
      fun h w' => Counted w w' ∧ ∃ cause, h = .failure (.io dir cause) ∧ cause ≠ .notFound ∧
        w.answer (fun d cwd => d.list cwd dir) = .error cause := by
  refine (look_answers _).bind ?_ (fun _ _ h => h.elim)
  rintro r _ ⟨hr, n, rfl⟩
  cases r with
  | ok files => exact ⟨⟨n, rfl⟩, .inl ⟨files, hr.symm, rfl⟩⟩
  | error cause =>
    dsimp only
    split
    · rename_i hmissing
      exact ends_pure ⟨⟨n, rfl⟩, .inr ⟨hmissing ▸ hr.symm, rfl⟩⟩
    · rename_i hfound
      exact ends_throw ⟨⟨n, rfl⟩, cause, rfl, hfound, hr.symm⟩

/-- The files of units in the directory are those that it lists under the name of a unit. -/
theorem unitsIn_lists (dir : String) (htells : w.Tells) :
    Ends (Store.unitsIn dir) w
      (fun units w' => Counted w w' ∧
        ((w.disk.list w.cwd dir = .error .notFound ∧ units = []) ∨
          ∃ files, w.disk.list w.cwd dir = .ok files ∧ ∀ unit, unit ∈ units ↔
            ∃ file ∈ files, w.disk.isFile w.cwd (join dir file) = true ∧
              (Store.unitName? file).map (fun name => (name, join dir file)) = some unit))
      fun _ _ => True := by
  refine (unitsIn_answers dir).mono ?_ fun _ _ _ => trivial
  cases hmet : w.met? with
  | none =>
    rw [World.answer_free hmet]
    rintro units w' ⟨hcounted, ⟨files, hlist, rfl⟩ | ⟨hmissing, rfl⟩⟩
    · refine ⟨hcounted, .inr ⟨files, hlist, fun unit => ?_⟩⟩
      rw [List.mem_mergeSort, List.mem_filterMap]
      refine exists_congr fun file => and_congr_right fun _ => ?_
      split
      · rename_i hfile
        rw [hfile]
        simp
      · rename_i hfile
        simp [hfile]
    · exact ⟨hcounted, .inl ⟨hmissing, rfl⟩⟩
  | some cause =>
    rw [World.answer_met hmet]
    obtain ⟨o, ho, rfl⟩ := Option.map_eq_some_iff.1 hmet
    rintro units w' ⟨-, ⟨files, hlist, -⟩ | ⟨hmissing, -⟩⟩
    · cases hlist
    · exact absurd (Except.error.inj hmissing) (htells _ o ho)

/-- The texts that are kept are those of the files that can be read as units. -/
theorem readUnits_reads (files : List (String × String)) :
    Ends (readUnits files) w
      (fun units w' => Counted w w' ∧ ∀ text, text ∈ units ↔
        (SourceUnit.read? text).isSome = true ∧
          ∃ entry ∈ files, w.disk.read w.cwd entry.2 = .ok text)
      fun _ _ => True := by
  induction files generalizing w with
  | nil => exact ends_pure ⟨Counted.refl w, by simp⟩
  | cons entry files ih =>
    obtain ⟨name, file⟩ := entry
    refine (Action.look_ends _).bind ?_ (fun _ _ h => h.elim)
    rintro r _ ⟨hr, n, rfl⟩
    cases r with
    | error cause => exact ends_throw trivial
    | ok source =>
      have hsource : w.disk.read w.cwd file = .ok source := hr source rfl
      have hhere : ∀ text, w.disk.read w.cwd file = .ok text ↔ text = source := by
        intro text
        rw [hsource]
        exact ⟨fun h => (Except.ok.inj h).symm, fun h => h ▸ rfl⟩
      refine ih.bind ?_ (fun _ _ _ => trivial)
      rintro others w' ⟨hw', hothers⟩
      have hcounted := Counted.trans ⟨n, rfl⟩ hw'
      split
      · rename_i hunit
        refine ends_pure ⟨hcounted, fun text => ?_⟩
        rw [List.mem_cons, hothers]
        simp only [List.exists_mem_cons_iff, hhere]
        constructor
        · rintro (rfl | ⟨hread, h⟩)
          · exact ⟨hunit, .inl rfl⟩
          · exact ⟨hread, .inr h⟩
        · rintro ⟨hread, rfl | h⟩
          · exact .inl rfl
          · exact .inr ⟨hread, h⟩
      · rename_i hunit
        refine ends_pure ⟨hcounted, fun text => ?_⟩
        rw [hothers]
        simp only [List.exists_mem_cons_iff, hhere]
        refine and_congr_right fun hread => ⟨.inr, ?_⟩
        rintro (rfl | h)
        · exact (hunit hread).elim
        · exact h

/-- **All units of the store are collected**, and nothing else. -/
theorem mem_storedUnits {root : String} {units : List String} {w' : World} (hroot : root ≠ "")
    (hsolid : w.disk.Solid w.cwd) (htells : w.Tells) (htidy : Store.Tidy ⟨root⟩ w)
    (hrun : (storedUnits [root]).run w = (.ok units, w')) (text : String) :
    text ∈ units ↔ ∃ name, Store.unit? ⟨root⟩ w name = some (.text text) := by
  have hends : Ends (storedUnits [root]) w
      (fun units _ => ∀ text, text ∈ units ↔ ∃ name, Store.unit? ⟨root⟩ w name = some (.text text))
      fun _ _ => True := by
    refine (unitsIn_lists root htells).bind ?_ (fun _ _ h => h)
    rintro files _ ⟨⟨n, rfl⟩, hfiles⟩
    refine (readUnits_reads files).bind ?_ (fun _ _ h => h)
    rintro units _ ⟨-, hunits⟩
    refine ends_pure fun text => ?_
    rw [List.append_nil, hunits]
    constructor
    · rintro ⟨-, entry, hentry, hread⟩
      obtain ⟨-, rfl⟩ | ⟨listed, hlist, hmem⟩ := hfiles
      · cases hentry
      · obtain ⟨file, hfile, -, hunit⟩ := (hmem entry).1 hentry
        obtain ⟨name, hname, rfl⟩ := Option.map_eq_some_iff.1 hunit
        -- what is listed stands in the directory, under a name that a file can have
        have hloc : file ∈ w.disk.names (place w.cwd root) := by
          rwa [list_ok hlist, List.mem_mergeSort] at hfile
        obtain ⟨e, he⟩ := mem_names.1 hloc
        have hstored := read_eq hread
        rw [place_join (hsolid.name he), Store.eq_of_unitName? hname] at hstored
        exact ⟨name, hstored⟩
    · rintro ⟨name, hunit⟩
      obtain ⟨_, ht, hwritten⟩ := htidy.written name _ hunit
      obtain rfl := Content.text.inj ht
      obtain ⟨hisFile, hread⟩ := htidy.found hunit
      have hname := hwritten.isPlain.isIdentifier
      have hlist := hsolid.list_around (isFileName_unit hname) hroot (htidy.reaches _ _ hunit)
      refine ⟨hwritten.readable, (name, _), ?_, hread⟩
      obtain ⟨hmissing, -⟩ | ⟨listed, hlisted, hmem⟩ := hfiles
      · rw [hlist] at hmissing
        cases hmissing
      · obtain rfl := Except.ok.inj (hlist.symm.trans hlisted)
        refine (hmem _).2 ⟨name ++ Store.ending, ?_, hisFile, ?_⟩
        · rw [List.mem_mergeSort, mem_names]
          exact ⟨_, file?_eq_some.1 hunit⟩
        · rw [Store.unitName?_unit hname]
          rfl
  exact hends.of_ok hrun text

/-- The units of an open foundry are those that were collected. -/
theorem start_units {s : Settings} (hs : s.preload = true) :
    Ends (start s) w
      (fun f _ => ∃ w', (storedUnits (s.sourceDir :: s.staticDirs)).run w = (.ok f.arena.units, w'))
      fun _ _ => True := by
  refine (Action.ofExcept_ends _).bind ?_ (fun _ _ _ => trivial)
  rintro _ _ ⟨-, rfl⟩
  refine (Action.ofExcept_ends _).bind ?_ (fun _ _ _ => trivial)
  rintro modules w ⟨-, rfl⟩
  dsimp only
  rw [if_pos hs]
  refine (storedUnits_ends _).of_run.bind ?_ (fun _ _ _ => trivial)
  rintro units w₁ ⟨hrun, -⟩
  split
  · rename_i hempty
    obtain rfl := List.isEmpty_iff.1 hempty
    exact ends_pure ⟨w₁, hrun⟩
  · refine (build_ends _ _ _ _ _).bind ?_ (fun _ _ _ => trivial)
    rintro p _ ⟨hp, -⟩
    refine ends_pure ⟨w₁, hrun.trans ?_⟩
    rw [← hp.units_eq]
    exact congrArg (fun units => (Except.ok units, w₁)) (Arena.units_push_empty p).symm

/-- **An open foundry has the units of the store**, if there are no other directories. -/
theorem mem_units_of_start {s : Settings} {f : Foundry} {w' : World} (hs : s.preload = true)
    (hstatic : s.staticDirs = []) (hroot : s.sourceDir ≠ "") (hsolid : w.disk.Solid w.cwd)
    (htells : w.Tells) (htidy : Store.Tidy ⟨s.sourceDir⟩ w)
    (hrun : (start s).run w = (.ok f, w')) (text : String) :
    text ∈ f.arena.units ↔ ∃ name, Store.unit? ⟨s.sourceDir⟩ w name = some (.text text) := by
  obtain ⟨w₁, hunits⟩ := (start_units hs).of_ok hrun
  rw [hstatic] at hunits
  exact mem_storedUnits hroot hsolid htells htidy hunits text

end Foundry

end TypeFoundry
