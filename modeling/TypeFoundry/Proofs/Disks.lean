import TypeFoundry.Proofs.Locations

/-!
# Files under the operations of a disk

Each operation is described by what it does at all locations: `entry?_write`, `entry?_rename`,
`entry?_mkdir`. `Disk.file?` is the content of the file at a location, and the same is said of the files
alone: `file?_write`, `file?_rename`, `file?_mkdir`. Reading returns what is in the file at the place of
the path (`content_eq`, `read_eq`).
-/

set_option autoImplicit false

namespace TypeFoundry.Files.Disk

variable {d d' : Disk}

/-- The content of the file at the location, if there is a file. -/
def file? (d : Disk) (loc : Location) : Option Content :=
  match d.entry? loc with
  | some (.file content) => some content
  | _ => none

theorem file?_eq_some {loc : Location} {c : Content} :
    d.file? loc = some c ↔ d.entry? loc = some (.file c) := by
  unfold file?
  split
  · rename_i content h
    simp [h]
  · rename_i h
    simp only [reduceCtorEq, false_iff]
    exact h c

theorem entry?_put_self {loc : Location} (h : loc ≠ []) (e : Entry) :
    entry? (d.put loc e) loc = some e := by
  simp [put, entry?, h]

theorem entry?_erase_of_ne {loc loc' : Location} (h : loc' ≠ loc) :
    entry? (d.erase loc) loc' = d.entry? loc' := by
  unfold entry? erase
  split
  · rfl
  · congr 1
    rw [List.find?_filter]
    congr 1
    funext e
    by_cases he : e.1 = loc'
    · simp [he, h]
    · simp [he]

theorem entry?_erase_self {loc : Location} (h : loc ≠ []) : entry? (d.erase loc) loc = none := by
  simp [erase, entry?, h]

theorem entry?_put_of_ne {loc loc' : Location} (h : loc' ≠ loc) (e : Entry) :
    entry? (d.put loc e) loc' = d.entry? loc' := by
  have hcons : entry? (d.put loc e) loc' = entry? (d.erase loc) loc' := by
    simp [put, entry?, Ne.symm h]
  rw [hcons, entry?_erase_of_ne h]

theorem entry?_put {loc : Location} (h : loc ≠ []) (e : Entry) (loc' : Location) :
    entry? (d.put loc e) loc' = if loc' = loc then some e else d.entry? loc' := by
  split
  · rename_i he
    rw [he, entry?_put_self h]
  · rename_i hne
    exact entry?_put_of_ne hne e

theorem entry?_erase {loc : Location} (h : loc ≠ []) (loc' : Location) :
    entry? (d.erase loc) loc' = if loc' = loc then none else d.entry? loc' := by
  split
  · rename_i he
    rw [he, entry?_erase_self h]
  · rename_i hne
    exact entry?_erase_of_ne hne

theorem ne_nil_of_not_directory {loc : Location} (h : d.entry? loc ≠ some .directory) : loc ≠ [] := by
  rintro rfl
  exact h rfl

/-! ## Operations -/

theorem write_ok {cwd : Location} {path : String} {c : Content} (h : d.write cwd path c = .ok d') :
    ∃ loc, d.locationOf cwd path = .ok loc ∧ d.entry? loc ≠ some .directory ∧
      d' = d.put loc (.file c) := by
  unfold write at h
  cases hloc : d.locationOf cwd path with
  | error e => rw [hloc] at h; cases h
  | ok loc =>
    rw [hloc] at h
    simp only [bind, Except.bind] at h
    split at h
    · cases h
    · rename_i hdir
      exact ⟨loc, rfl, hdir, (Except.ok.inj h).symm⟩

theorem rename_ok {cwd : Location} {source target : String} (h : d.rename cwd source target = .ok d') :
    ∃ old new c, d.locationOf cwd source = .ok old ∧ d.locationOf cwd target = .ok new ∧
      d.entry? old = some (.file c) ∧ d.entry? new ≠ some .directory ∧
      d' = (d.erase old).put new (.file c) := by
  unfold rename at h
  cases hold : d.locationOf cwd source with
  | error e => rw [hold] at h; cases h
  | ok old =>
    cases hnew : d.locationOf cwd target with
    | error e => rw [hold, hnew] at h; cases h
    | ok new =>
      rw [hold, hnew] at h
      simp only [bind, Except.bind] at h
      split at h
      · cases h
      · rename_i c hfile hdir
        exact ⟨old, new, c, rfl, rfl, hfile, hdir, (Except.ok.inj h).symm⟩
      · cases h
      · cases h

theorem mkdir_ok {start : Location} {parts : List String} (h : d.mkdir start parts = .ok d') :
    ∃ loc, d.locate start parts = .ok loc ∧ d.entry? loc = none ∧ d' = d.put loc .directory := by
  unfold mkdir at h
  cases hloc : d.locate start parts with
  | error e => rw [hloc] at h; cases h
  | ok loc =>
    rw [hloc] at h
    simp only [bind, Except.bind] at h
    split at h
    · cases h
    · rename_i hnone
      exact ⟨loc, rfl, hnone, (Except.ok.inj h).symm⟩

/-- **Writing** changes what is at the place of the path and nothing else. -/
theorem entry?_write {cwd : Location} {path : String} {c : Content}
    (h : d.write cwd path c = .ok d') (loc : Location) :
    d'.entry? loc = if loc = place cwd path then some (.file c) else d.entry? loc := by
  obtain ⟨target, hloc, hdir, rfl⟩ := write_ok h
  rw [← locationOf_eq_place hloc]
  exact entry?_put (ne_nil_of_not_directory hdir) _ loc

/-- **Renaming** moves the file at the one place to the other. -/
theorem entry?_rename {cwd : Location} {source target : String}
    (h : d.rename cwd source target = .ok d') :
    ∃ c, d.entry? (place cwd source) = some (.file c) ∧ ∀ loc, d'.entry? loc =
      if loc = place cwd target then some (.file c)
      else if loc = place cwd source then none else d.entry? loc := by
  obtain ⟨old, new, c, hold, hnew, hfile, hdir, rfl⟩ := rename_ok h
  rw [← locationOf_eq_place hold, ← locationOf_eq_place hnew]
  refine ⟨c, hfile, fun loc => ?_⟩
  have hnil : old ≠ [] := ne_nil_of_not_directory (by rw [hfile]; simp)
  rw [entry?_put (ne_nil_of_not_directory hdir), entry?_erase hnil]

/-- **Making a directory** puts it where nothing was, and changes nothing else. -/
theorem entry?_mkdir {start : Location} {parts : List String} (h : d.mkdir start parts = .ok d') :
    d.entry? (walk start parts) = none ∧ ∀ loc, d'.entry? loc =
      if loc = walk start parts then some .directory else d.entry? loc := by
  obtain ⟨target, hloc, hnone, rfl⟩ := mkdir_ok h
  rw [← locate_eq_walk hloc]
  exact ⟨hnone, entry?_put (ne_nil_of_not_directory (by rw [hnone]; simp)) _⟩

theorem file?_write {cwd : Location} {path : String} {c : Content}
    (h : d.write cwd path c = .ok d') (loc : Location) :
    d'.file? loc = if loc = place cwd path then some c else d.file? loc := by
  by_cases hloc : loc = place cwd path
  · simp only [file?, entry?_write h, if_pos hloc]
  · simp only [file?, entry?_write h, if_neg hloc]

theorem file?_rename {cwd : Location} {source target : String}
    (h : d.rename cwd source target = .ok d') :
    ∃ c, d.file? (place cwd source) = some c ∧ ∀ loc, d'.file? loc =
      if loc = place cwd target then some c
      else if loc = place cwd source then none else d.file? loc := by
  obtain ⟨c, hc, hentry⟩ := entry?_rename h
  refine ⟨c, file?_eq_some.2 hc, fun loc => ?_⟩
  by_cases htarget : loc = place cwd target
  · simp only [file?, hentry, if_pos htarget]
  · by_cases hsource : loc = place cwd source
    · simp only [file?, hentry, if_neg htarget, if_pos hsource]
    · simp only [file?, hentry, if_neg htarget, if_neg hsource]

/-- Making a directory leaves all files as they are. -/
theorem file?_mkdir {start : Location} {parts : List String}
    (h : d.mkdir start parts = .ok d') (loc : Location) : d'.file? loc = d.file? loc := by
  obtain ⟨hnone, hentry⟩ := entry?_mkdir h
  by_cases hloc : loc = walk start parts
  · simp only [file?, hentry, hloc, if_true, hnone]
  · simp only [file?, hentry, if_neg hloc]

/-- What is read is in the file at the place of the path. -/
theorem content_eq {cwd : Location} {path : String} {c : Content}
    (h : d.content cwd path = .ok c) : d.file? (place cwd path) = some c := by
  unfold content at h
  cases hloc : d.locationOf cwd path with
  | error e => rw [hloc] at h; cases h
  | ok loc =>
    rw [hloc] at h
    simp only [bind, Except.bind] at h
    rw [← locationOf_eq_place hloc, file?_eq_some]
    split at h
    · rename_i hentry
      rw [hentry, ← Except.ok.inj h]
    · cases h
    · cases h

theorem read_eq {cwd : Location} {path s : String} (h : d.read cwd path = .ok s) :
    d.file? (place cwd path) = some (.text s) := by
  unfold read at h
  cases hc : d.content cwd path with
  | error e => rw [hc] at h; cases h
  | ok c =>
    rw [hc] at h
    cases c with
    | text t => rw [content_eq hc, ← Except.ok.inj h]
    | binary bytes => cases h

/-! ## Files that stay -/

/-- The disks hold the same files at the locations. -/
def SameFiles (P : Location → Prop) (d d' : Disk) : Prop := ∀ loc, P loc → d'.file? loc = d.file? loc

namespace SameFiles

variable {P Q : Location → Prop} {d'' : Disk}

theorem refl (P : Location → Prop) (d : Disk) : SameFiles P d d := fun _ _ => rfl

theorem trans (h : SameFiles P d d') (h' : SameFiles P d' d'') : SameFiles P d d'' :=
  fun loc hloc => (h' loc hloc).trans (h loc hloc)

theorem mono (h : SameFiles P d d') (hQ : ∀ loc, Q loc → P loc) : SameFiles Q d d' :=
  fun loc hloc => h loc (hQ loc hloc)

theorem of_ne {target : Location} (h : SameFiles (· ≠ target) d d') (hP : ¬ P target) :
    SameFiles P d d' :=
  h.mono fun _ hloc he => hP (he ▸ hloc)

end SameFiles

theorem sameFiles_write {cwd : Location} {path : String} {c : Content}
    (h : d.write cwd path c = .ok d') : SameFiles (· ≠ place cwd path) d d' := by
  intro loc hloc
  rw [file?_write h, if_neg hloc]

end TypeFoundry.Files.Disk
