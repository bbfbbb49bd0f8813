import Mathlib.Data.List.Nodup
import TypeFoundry.Proofs.Directories

/-!
# What stands right in a directory

`HasRoom` says that the directory at a path is there, or that it is missing and can be made: from somewhere on
the path leads down, and no file is in the way. In both cases a name joined to the path leads to what
stands under that name right in the directory, and to nothing if the directory is missing
(`content_join`). The list of a directory that can be followed has each of these names once (`list_eq`,
`nodup_names`), as each location has one entry (`Distinct`).
-/

set_option autoImplicit false

namespace TypeFoundry.Files

namespace Disk

variable {d d' : Disk} {cwd : Location}

/-! ## One entry for each location -/

/-- Each location has one entry at most. -/
def Distinct (d : Disk) : Prop := (d.entries.map (·.1)).Nodup

theorem distinct_empty : Disk.empty.Distinct := List.nodup_nil

theorem distinct_erase (h : d.Distinct) (loc : Location) : Distinct (d.erase loc) :=
  h.sublist (List.filter_sublist.map _)

theorem distinct_put (h : d.Distinct) (loc : Location) (e : Entry) : Distinct (d.put loc e) := by
  refine List.nodup_cons.2 ⟨?_, distinct_erase h loc⟩
  simp [erase]

theorem distinct_write {path : String} {c : Content} (h : d.Distinct)
    (hwrite : d.write cwd path c = .ok d') : d'.Distinct := by
  obtain ⟨loc, -, -, rfl⟩ := write_ok hwrite
  exact distinct_put h _ _

theorem distinct_rename {source target : String} (h : d.Distinct)
    (hrename : d.rename cwd source target = .ok d') : d'.Distinct := by
  obtain ⟨old, new, c, -, -, -, -, rfl⟩ := rename_ok hrename
  exact distinct_put (distinct_erase h _) _ _

theorem distinct_mkdir {start : Location} {parts : List String} (h : d.Distinct)
    (hmkdir : d.mkdir start parts = .ok d') : d'.Distinct := by
  obtain ⟨loc, -, -, rfl⟩ := mkdir_ok hmkdir
  exact distinct_put h _ _

/-- No name stands in a directory twice. -/
theorem nodup_names (h : d.Distinct) (dir : Location) : (d.names dir).Nodup := by
  have hnames : d.names dir = (d.entries.map (·.1)).filterMap (nameIn? dir) := by
    rw [names, List.filterMap_map]
    rfl
  rw [hnames]
  refine h.filterMap fun loc loc' name hloc hloc' => ?_
  rw [nameIn?_eq_some hloc, nameIn?_eq_some hloc']

/-! ## Directories that are there or can be made -/

/-- The parts of the path. -/
abbrev partsOf (dir : String) : List String := (Path.ofText dir).parts

/-- Where the path starts. -/
abbrev startAt (cwd : Location) (dir : String) : Location := startOf cwd (Path.ofText dir)

/-- The parts can be followed down from the location: the system takes each name, and no file stands in the
way. What is missing of them can be made. -/
structure LeadsDown (d : Disk) (loc : Location) (parts : List String) : Prop where
  down : ∀ part ∈ parts, part ≠ ".." ∧ part.utf8ByteSize ≤ maxName
  clear : ∀ ps, ps <+: parts → ∀ c, d.entry? (loc ++ ps) ≠ some (.file c)

/-- The path leads to a directory that is there and from it down, to where a directory is or can be made. -/
structure HasRoom (d : Disk) (cwd : Location) (dir : String) : Prop where
  ne_empty : dir ≠ ""
  noNul : '\x00' ∉ dir.toList
  way : ∃ there down loc, partsOf dir = there ++ down ∧ d.follow (startAt cwd dir) there = .ok loc ∧
    d.LeadsDown loc down

namespace LeadsDown

variable {start loc : Location} {there parts : List String}

/-- Parts that lead down lead to a directory or end where nothing is. -/
theorem follow (h : d.LeadsDown loc parts) :
    d.follow loc parts = .ok (loc ++ parts) ∨ d.follow loc parts = .error .notFound := by
  obtain ⟨hdown, hclear⟩ := h
  induction parts generalizing loc with
  | nil => exact .inl (by simp [Disk.follow])
  | cons part parts ih =>
    obtain ⟨⟨hup, hlength⟩, hrest⟩ := List.forall_mem_cons.1 hdown
    rw [Disk.follow, if_neg hup, if_neg (Nat.not_lt.2 hlength)]
    cases hentry : d.entry? (loc ++ [part]) with
    | none => exact .inr rfl
    | some e =>
      cases e with
      | file c => exact absurd hentry (hclear [part] (by simp) c)
      | directory =>
        rw [List.append_cons loc part parts]
        refine ih hrest fun ps hps c => ?_
        rw [List.append_assoc]
        exact hclear (part :: ps) (List.cons_prefix_cons.2 ⟨rfl, hps⟩) c

theorem initial {ps : List String} (h : d.LeadsDown loc parts) (hps : ps <+: parts) : d.LeadsDown loc ps :=
  ⟨fun part hpart => h.down part (hps.subset hpart), fun qs hqs => h.clear qs (hqs.trans hps)⟩

theorem walk_eq (h : d.LeadsDown loc parts) (hthere : d.follow start there = .ok loc) :
    walk start (there ++ parts) = loc ++ parts := by
  rw [walk_append, ← follow_eq_walk hthere]
  exact walk_down fun hup => (h.down _ hup).1 rfl

variable {dir : String}

theorem place_eq (h : d.LeadsDown loc parts) (hparts : partsOf dir = there ++ parts)
    (hthere : d.follow (startAt cwd dir) there = .ok loc) : place cwd dir = loc ++ parts := by
  rw [← h.walk_eq hthere, ← hparts]
  rfl

/-- What is around a directory, and the directory itself, does not stand in it. -/
theorem ne_place_concat {ps : List String} (h : d.LeadsDown loc parts)
    (hparts : partsOf dir = there ++ parts) (hthere : d.follow (startAt cwd dir) there = .ok loc)
    (hps : ps <+: parts) (name : String) : place cwd dir ++ [name] ≠ loc ++ ps := by
  rw [h.place_eq hparts hthere, List.append_assoc, ne_eq, List.append_right_inj]
  rintro rfl
  have hlength := hps.length_le
  rw [List.length_append, List.length_singleton] at hlength
  omega

end LeadsDown

namespace HasRoom

variable {dir : String}

/-- A directory that is there has room. -/
theorem of_follow {loc : Location} (hsolid : d.Solid cwd) (hempty : dir ≠ "") (hnul : '\x00' ∉ dir.toList)
    (h : d.follow (startAt cwd dir) (partsOf dir) = .ok loc) : d.HasRoom cwd dir := by
  refine ⟨hempty, hnul, partsOf dir, [], loc, (List.append_nil _).symm, h, by simp, fun ps hps c => ?_⟩
  rw [List.prefix_nil.1 hps, List.append_nil, hsolid.follow (hsolid.startOf _) h]
  simp

/-- The directory is there, or nothing stands in it and each path through it ends where nothing is. -/
theorem follow (h : d.HasRoom cwd dir) (hsolid : d.Solid cwd) :
    d.follow (startAt cwd dir) (partsOf dir) = .ok (place cwd dir) ∨
      d.follow (startAt cwd dir) (partsOf dir) = .error .notFound ∧
        ∀ name, d.entry? (place cwd dir ++ [name]) = none := by
  obtain ⟨there, down, loc, hparts, hthere, hdown⟩ := h.way
  rw [hdown.place_eq hparts hthere, hparts, follow_append, hthere, Except.bind]
  obtain hfound | hmissing := hdown.follow
  · exact .inl hfound
  · refine .inr ⟨hmissing, fun name => ?_⟩
    by_contra hsome
    obtain ⟨e, he⟩ := Option.ne_none_iff_exists'.1 hsome
    rw [List.append_assoc] at he
    rw [hsolid.follow_down hdown.down he] at hmissing
    cases hmissing

end HasRoom

/-! ## Names joined to a directory -/

section

variable {dir name : String}

/-- The characters of a joined path are those of the directory and of the name, and a slash. -/
theorem of_mem_join {c : Char} (h : c ∈ (join dir name).toList) :
    c ∈ dir.toList ∨ c = '/' ∨ c ∈ name.toList := by
  unfold join at h
  split at h
  · exact .inr (.inr h)
  · split at h <;> simp at h
    · exact h.imp_right .inr
    · tauto

theorem mem_join_of_mem {c : Char} (h : c ∈ name.toList) : c ∈ (join dir name).toList := by
  unfold join
  split
  · exact h
  · split <;> simp [h]

variable (hname : IsFileName name)

include hname

theorem join_ne_empty : join dir name ≠ "" := by
  unfold join
  split
  · exact hname.ne_empty
  · split <;> simp [hname.ne_empty]

variable (hdir : '\x00' ∉ dir.toList)

include hdir

/-- A name is looked for where its directory is. -/
theorem locationOf_join (hnul : '\x00' ∉ name.toList) :
    d.locationOf cwd (join dir name) = (d.follow (startAt cwd dir) (partsOf dir)).bind fun loc =>
      if maxName < name.utf8ByteSize then .error .nameTooLong else .ok (loc ++ [name]) := by
  have hpath := hname.ofText_join dir
  have hnul' : ¬ (join dir name).toList.contains '\x00' = true := by
    rw [List.contains_iff_mem]
    intro hmem
    obtain hmem | hmem | hmem := of_mem_join hmem
    · exact hdir hmem
    · exact absurd hmem (by decide)
    · exact hnul hmem
  rw [locationOf, if_neg hnul', if_neg (join_ne_empty hname)]
  simp only [hpath, locate, List.getLast?_append, List.getLast?_singleton, Option.some_or,
    List.dropLast_concat, if_neg hname.ne_up]
  rfl

/-- What can be found has a name that can be handed to the system. -/
theorem fits_of_locationOf {loc : Location} (h : d.locationOf cwd (join dir name) = .ok loc) :
    '\x00' ∉ name.toList ∧ name.utf8ByteSize ≤ maxName := by
  have hnul : '\x00' ∉ name.toList := by
    intro hmem
    rw [locationOf, if_pos (List.contains_iff_mem.2 (mem_join_of_mem hmem))] at h
    cases h
  refine ⟨hnul, ?_⟩
  rw [locationOf_join hname hdir hnul] at h
  cases hfollow : d.follow (startAt cwd dir) (partsOf dir) with
  | error e => rw [hfollow] at h; cases h
  | ok around =>
    rw [hfollow, Except.bind] at h
    split at h
    · cases h
    · omega

omit hdir

/-- What a file holds, or why nothing is read there. -/
def contentOf : Option Entry → Except Cause Content
  | some (.file c) => .ok c
  | some .directory => .error .isADirectory
  | none => .error .notFound

/-- **A name in a directory** leads to what stands under it there. -/
theorem content_join (hroom : d.HasRoom cwd dir) (hsolid : d.Solid cwd) (hnul : '\x00' ∉ name.toList)
    (hlength : name.utf8ByteSize ≤ maxName) :
    d.content cwd (join dir name) = contentOf (d.entry? (place cwd dir ++ [name])) := by
  rw [content, locationOf_join hname hroom.noNul hnul]
  obtain hthere | ⟨hmissing, hnone⟩ := hroom.follow hsolid
  · rw [hthere, Except.bind, if_neg (Nat.not_lt.2 hlength)]
    simp only [bind, Except.bind]
    cases d.entry? (place cwd dir ++ [name]) with
    | none => rfl
    | some e => cases e <;> rfl
  · rw [hmissing, hnone]
    rfl

/-- A name that is too long leads to nothing, for this cause or because its directory is not there. -/
theorem content_join_tooLong (hdir : '\x00' ∉ dir.toList) (hnul : '\x00' ∉ name.toList)
    (hlength : maxName < name.utf8ByteSize) : d.content cwd (join dir name) =
      (d.follow (startAt cwd dir) (partsOf dir)).bind fun _ => .error .nameTooLong := by
  rw [content, locationOf_join hname hdir hnul]
  simp only [if_pos hlength]
  cases d.follow (startAt cwd dir) (partsOf dir) <;> rfl

end

theorem isFile_eq_content (d : Disk) (cwd : Location) (path : String) :
    d.isFile cwd path = (d.content cwd path).isOk := by
  unfold isFile content
  cases d.locationOf cwd path with
  | error e => rfl
  | ok loc =>
    simp only [bind, Except.bind]
    cases d.entry? loc with
    | none => rfl
    | some e => cases e <;> rfl

theorem isFile_iff {path : String} : d.isFile cwd path = true ↔ ∃ c, d.content cwd path = .ok c := by
  rw [isFile_eq_content]
  cases d.content cwd path <;> simp [Except.isOk, Except.toBool]

theorem list_eq_locate {dir : String} (hempty : dir ≠ "") (hnul : '\x00' ∉ dir.toList) :
    d.list cwd dir = (d.locate (startAt cwd dir) (partsOf dir)).bind fun loc =>
      match d.entry? loc with
      | some .directory => .ok ((d.names loc).mergeSort fun a b => compare a b != .gt)
      | some (.file _) => .error .notADirectory
      | none => .error .notFound := by
  have hcontains : ¬ dir.toList.contains '\x00' = true := by rwa [List.contains_iff_mem]
  rw [list, locationOf, if_neg hcontains, if_neg hempty]
  rfl

/-- **The list of a directory** has the names of what stands where the path leads, if it can be followed. -/
theorem list_eq (h : d.Solid cwd) {dir : String} (hempty : dir ≠ "") (hnul : '\x00' ∉ dir.toList) :
    d.list cwd dir = (d.follow (startAt cwd dir) (partsOf dir)).map fun loc =>
      (d.names loc).mergeSort fun a b => compare a b != .gt := by
  rw [list_eq_locate hempty hnul]
  cases hfollow : d.follow (startAt cwd dir) (partsOf dir) with
  | ok loc =>
    rw [locate_of_follow hfollow, Except.bind, h.follow (h.startOf _) hfollow]
    rfl
  | error cause =>
    obtain hnil | ⟨init, last, hparts⟩ := List.eq_nil_or_concat' (partsOf dir)
    · rw [hnil] at hfollow
      cases hfollow
    rw [hparts, follow_append] at hfollow
    rw [locate, hparts, List.getLast?_concat, List.dropLast_concat]
    cases hinit : d.follow (startAt cwd dir) init with
    | error cause' =>
      rw [hinit] at hfollow
      obtain rfl := Except.error.inj hfollow
      rfl
    | ok around =>
      rw [hinit] at hfollow
      simp only [Except.bind, follow] at hfollow
      simp only [bind, Except.bind]
      split at hfollow
      · cases hfollow
      · rename_i hup
        rw [if_neg hup]
        split at hfollow
        · rename_i hlength
          rw [if_pos hlength]
          exact hfollow
        · rename_i hlength
          rw [if_neg hlength]
          dsimp only
          split at hfollow <;> simp_all [Except.map]

/-- The list of a directory that is there or can be made has the names of what stands in it; if the directory
is missing, nothing is found. -/
theorem list_room {dir : String} (hroom : d.HasRoom cwd dir) (hsolid : d.Solid cwd) :
    d.list cwd dir = .ok ((d.names (place cwd dir)).mergeSort fun a b => compare a b != .gt) ∨
      d.list cwd dir = .error .notFound ∧ ∀ name, d.entry? (place cwd dir ++ [name]) = none := by
  rw [list_eq hsolid hroom.ne_empty hroom.noNul]
  obtain hthere | ⟨hmissing, hnone⟩ := hroom.follow hsolid
  · exact .inl (by rw [hthere]; rfl)
  · exact .inr ⟨by rw [hmissing]; rfl, hnone⟩

end Disk

end TypeFoundry.Files
