import TypeFoundry.Proofs.Disks

/-!
# Directories that stay

On a solid disk everything stands in a directory (`Solid`). Writing, renaming and making directories
keep a disk solid and leave all directories where they are (`Grows`), so a path that could be followed
once can be followed from then on (`locationOf_grows`). The directory around a file that a path leads to
can be listed (`list_around`), and the list has the names of all that stands right in it (`mem_names`).
-/

set_option autoImplicit false

namespace TypeFoundry.Files

/-- The text is a part of a path: no slash is in it, and it counts. -/
structure IsPart (part : String) : Prop where
  ne_empty : part ≠ ""
  ne_dot : part ≠ "."
  noSlash : '/' ∉ part.toList

theorem IsPart.isFileName {part : String} (h : IsPart part) (hup : part ≠ "..") : IsFileName part :=
  ⟨h.ne_empty, h.ne_dot, hup, h.noSlash⟩

theorem isPart_of_mem {text part : String} (h : part ∈ (Path.ofText text).parts) : IsPart part := by
  rw [parts_ofText, List.mem_filter] at h
  obtain ⟨hcolumn, hcounts⟩ := h
  obtain ⟨hempty, hdot⟩ := of_decide_eq_true hcounts
  exact ⟨hempty, hdot, Text.not_mem_of_mem_columns hcolumn⟩

namespace Disk

variable {d d' : Disk} {cwd : Location}

/-- Everything on the disk, and the current directory, stands in a directory, under a name that a file
can have. -/
structure Solid (d : Disk) (cwd : Location) : Prop where
  cwd : d.entry? cwd = some .directory
  parent : ∀ {loc e}, d.entry? loc = some e → d.entry? loc.dropLast = some .directory
  name : ∀ {loc name e}, d.entry? (loc ++ [name]) = some e → IsFileName name

theorem eq_nil_of_entry?_empty {loc : Location} {e : Entry} (h : Disk.empty.entry? loc = some e) :
    loc = [] := by
  by_contra hne
  simp [Disk.empty, Disk.entry?, hne] at h

theorem solid_empty : Disk.empty.Solid [] := by
  refine ⟨rfl, fun {loc e} h => ?_, fun {loc name e} h => ?_⟩
  · rw [eq_nil_of_entry?_empty h]
    rfl
  · simpa using eq_nil_of_entry?_empty h

/-- All directories are still there. -/
def Grows (d d' : Disk) : Prop :=
  ∀ loc, d.entry? loc = some .directory → d'.entry? loc = some .directory

theorem Grows.refl (d : Disk) : Grows d d := fun _ h => h

theorem Grows.trans {d'' : Disk} (h : Grows d d') (h' : Grows d' d'') : Grows d d'' :=
  fun loc hloc => h' loc (h loc hloc)

/-! ## Following paths -/

/-- A path that can be followed can still be followed. -/
theorem follow_grows (h : Grows d d') {start loc : Location} {parts : List String}
    (hfollow : d.follow start parts = .ok loc) : d'.follow start parts = .ok loc := by
  induction parts generalizing start with
  | nil => exact hfollow
  | cons part parts ih =>
    simp only [follow] at hfollow ⊢
    split at hfollow
    · rename_i hup
      rw [if_pos hup]
      exact ih hfollow
    · rename_i hup
      rw [if_neg hup]
      split at hfollow
      · cases hfollow
      · rename_i hlength
        rw [if_neg hlength]
        split at hfollow
        · cases hfollow
        · cases hfollow
        · rename_i hdir
          rw [h _ hdir]
          exact ih hfollow

theorem locate_grows (h : Grows d d') {start loc : Location} {parts : List String}
    (hlocate : d.locate start parts = .ok loc) : d'.locate start parts = .ok loc := by
  unfold locate at hlocate ⊢
  cases hlast : parts.getLast? with
  | none => rw [hlast] at hlocate; exact hlocate
  | some last =>
    rw [hlast] at hlocate
    cases hdir : d.follow start parts.dropLast with
    | error e => simp only [hdir] at hlocate; cases hlocate
    | ok dir =>
      simp only [hdir] at hlocate
      simp only [follow_grows h hdir]
      exact hlocate

theorem locationOf_grows (h : Grows d d') {loc : Location} {text : String}
    (hloc : d.locationOf cwd text = .ok loc) : d'.locationOf cwd text = .ok loc := by
  unfold locationOf at hloc ⊢
  split at hloc
  · cases hloc
  · rename_i hnul
    rw [if_neg hnul]
    split at hloc
    · cases hloc
    · rename_i hempty
      rw [if_neg hempty]
      exact locate_grows h hloc

namespace Solid

theorem startOf (h : d.Solid cwd) (p : Path) : d.entry? (startOf cwd p) = some .directory := by
  unfold Disk.startOf
  split
  · rfl
  · exact h.cwd

/-- Parts that can be followed lead from a directory to a directory. -/
theorem follow (h : d.Solid cwd) {start loc : Location} {parts : List String}
    (hstart : d.entry? start = some .directory) (hfollow : d.follow start parts = .ok loc) :
    d.entry? loc = some .directory := by
  induction parts generalizing start with
  | nil => rw [← Except.ok.inj hfollow]; exact hstart
  | cons part parts ih =>
    simp only [Disk.follow] at hfollow
    split at hfollow
    · exact ih (h.parent hstart) hfollow
    · split at hfollow
      · cases hfollow
      · split at hfollow
        · cases hfollow
        · cases hfollow
        · rename_i hdir
          exact ih hdir hfollow

/-- Parts lead from a directory to a directory, or to a name in one. -/
theorem locate (h : d.Solid cwd) {start loc : Location} {parts : List String}
    (hparts : ∀ part ∈ parts, IsPart part) (hstart : d.entry? start = some .directory)
    (hlocate : d.locate start parts = .ok loc) :
    d.entry? loc = some .directory ∨
      ∃ dir name, loc = dir ++ [name] ∧ d.entry? dir = some .directory ∧ IsFileName name := by
  unfold Disk.locate at hlocate
  split at hlocate
  · rw [← Except.ok.inj hlocate]
    exact .inl hstart
  · rename_i last hlast
    cases hdir : d.follow start parts.dropLast with
    | error e => rw [hdir] at hlocate; cases hlocate
    | ok dir =>
      rw [hdir] at hlocate
      simp only [bind, Except.bind] at hlocate
      have hdirectory := h.follow hstart hdir
      split at hlocate
      · rw [← Except.ok.inj hlocate]
        exact .inl (h.parent hdirectory)
      · rename_i hup
        split at hlocate
        · cases hlocate
        · have hpart := hparts last (List.mem_of_getLast? hlast)
          exact .inr ⟨dir, last, (Except.ok.inj hlocate).symm, hdirectory, hpart.isFileName hup⟩

theorem locationOf (h : d.Solid cwd) {loc : Location} {text : String}
    (hloc : d.locationOf cwd text = .ok loc) :
    d.entry? loc = some .directory ∨
      ∃ dir name, loc = dir ++ [name] ∧ d.entry? dir = some .directory ∧ IsFileName name := by
  unfold Disk.locationOf at hloc
  split at hloc
  · cases hloc
  · split at hloc
    · cases hloc
    · exact h.locate (fun _ => isPart_of_mem) (h.startOf _) hloc

/-- What stands around something on the disk are directories. -/
theorem above (h : d.Solid cwd) {loc : Location} {part : String} {parts : List String} {e : Entry}
    (hentry : d.entry? (loc ++ part :: parts) = some e) : d.entry? loc = some .directory := by
  induction parts generalizing loc part with
  | nil => simpa using h.parent hentry
  | cons next parts ih =>
    have hinner : d.entry? (loc ++ [part]) = some .directory := ih (by simpa using hentry)
    simpa using h.parent hinner

/-- The parts down to a directory can be followed. -/
theorem follow_to (h : d.Solid cwd) {start : Location} {parts : List String}
    (hparts : ∀ part ∈ parts, part ≠ ".." ∧ part.utf8ByteSize ≤ maxName)
    (hentry : d.entry? (start ++ parts) = some .directory) :
    d.follow start parts = .ok (start ++ parts) := by
  induction parts generalizing start with
  | nil => simp [Disk.follow]
  | cons part parts ih =>
    obtain ⟨⟨hup, hlength⟩, hparts⟩ := List.forall_mem_cons.1 hparts
    rw [List.append_cons] at hentry
    have hdir : d.entry? (start ++ [part]) = some .directory := by
      cases parts with
      | nil => simpa using hentry
      | cons next rest => exact h.above hentry
    rw [Disk.follow, if_neg hup, if_neg (Nat.not_lt.2 hlength)]
    simp only [hdir]
    rw [ih hparts hentry, List.append_cons start part parts]

/-- The directories around something can be followed down to it. -/
theorem follow_down (h : d.Solid cwd) {start : Location} {parts : List String} {last : String}
    {e : Entry} (hparts : ∀ part ∈ parts, part ≠ ".." ∧ part.utf8ByteSize ≤ maxName)
    (hentry : d.entry? (start ++ (parts ++ [last])) = some e) :
    d.follow start parts = .ok (start ++ parts) :=
  h.follow_to hparts (h.above (by rwa [List.append_assoc]))

/-- **A path down to something** on the disk leads to it. -/
theorem locate_down (h : d.Solid cwd) {start : Location} {parts : List String} {e : Entry}
    (hparts : ∀ part ∈ parts, part ≠ ".." ∧ part.utf8ByteSize ≤ maxName)
    (hentry : d.entry? (start ++ parts) = some e) : d.locate start parts = .ok (start ++ parts) := by
  unfold Disk.locate
  cases hlast : parts.getLast? with
  | none => simp [List.getLast?_eq_none_iff.1 hlast]
  | some last =>
    have hsplit : parts = parts.dropLast ++ [last] := (List.dropLast_append_getLast? last hlast).symm
    obtain ⟨hup, hlength⟩ := hparts last (List.mem_of_getLast? hlast)
    have hdir := h.follow_down (fun p hp => hparts p (List.dropLast_subset _ hp)) (hsplit ▸ hentry)
    simp only [hdir, bind, Except.bind]
    rw [if_neg hup, if_neg (Nat.not_lt.2 hlength), List.append_assoc, ← hsplit]

/-! ## Operations -/

/-- Something new under a name in a directory. -/
theorem put (h : d.Solid cwd) {loc dir : Location} {name : String} {e : Entry}
    (hloc : loc = dir ++ [name]) (hdir : d.entry? dir = some .directory) (hname : IsFileName name)
    (hfree : d.entry? loc ≠ some .directory) : Solid (d.put loc e) cwd ∧ Grows d (d.put loc e) := by
  have hnil : loc ≠ [] := by simp [hloc]
  have hgrows : Grows d (d.put loc e) := by
    intro l hl
    rw [entry?_put_of_ne]
    · exact hl
    · rintro rfl
      exact hfree hl
  refine ⟨⟨hgrows _ h.cwd, fun {l e'} hl => ?_, fun {l name' e'} hl => ?_⟩, hgrows⟩
  · by_cases hne : l = loc
    · rw [hne, hloc, List.dropLast_concat]
      exact hloc ▸ hgrows _ hdir
    · rw [entry?_put_of_ne hne] at hl
      exact hgrows _ (h.parent hl)
  · by_cases hne : l ++ [name'] = loc
    · rw [hloc] at hne
      obtain ⟨-, hlast⟩ := List.append_inj' hne rfl
      rw [List.singleton_inj.1 hlast]
      exact hname
    · rw [entry?_put_of_ne hne] at hl
      exact h.name hl

theorem erase (h : d.Solid cwd) {loc : Location} {c : Content}
    (hfile : d.entry? loc = some (.file c)) : Solid (d.erase loc) cwd ∧ Grows d (d.erase loc) := by
  have hgrows : Grows d (d.erase loc) := by
    intro l hl
    rw [entry?_erase_of_ne]
    · exact hl
    · rintro rfl
      rw [hfile] at hl
      cases hl
  have hnil : loc ≠ [] := by
    rintro rfl
    cases hfile
  have hold : ∀ {l e}, entry? (d.erase loc) l = some e → d.entry? l = some e := by
    intro l e hl
    by_cases hne : l = loc
    · subst hne
      rw [entry?_erase_self hnil] at hl
      cases hl
    · rwa [entry?_erase_of_ne hne] at hl
  exact ⟨⟨hgrows _ h.cwd, fun hl => hgrows _ (h.parent (hold hl)), fun hl => h.name (hold hl)⟩, hgrows⟩

end Solid

/-- **Writing** keeps a disk solid, and all directories. -/
theorem write_solid {path : String} {c : Content} (h : d.Solid cwd)
    (hwrite : d.write cwd path c = .ok d') : Solid d' cwd ∧ Grows d d' := by
  obtain ⟨loc, hloc, hfree, rfl⟩ := write_ok hwrite
  obtain hdir | ⟨dir, name, hat, hdir, hname⟩ := h.locationOf hloc
  · exact absurd hdir hfree
  · exact h.put hat hdir hname hfree

/-- **Renaming** a file keeps a disk solid, and all directories. -/
theorem rename_solid {source target : String} (h : d.Solid cwd)
    (hrename : d.rename cwd source target = .ok d') : Solid d' cwd ∧ Grows d d' := by
  obtain ⟨old, new, c, hold, hnew, hfile, hfree, rfl⟩ := rename_ok hrename
  obtain ⟨hsolid, hgrows⟩ := h.erase hfile
  obtain hdir | ⟨dir, name, hat, hdir, hname⟩ := h.locationOf hnew
  · exact absurd hdir hfree
  · have hnil : old ≠ [] := ne_nil_of_not_directory (by rw [hfile]; simp)
    have hfree' : entry? (d.erase old) new ≠ some .directory := by
      intro hnew
      rw [entry?_erase hnil] at hnew
      split at hnew
      · cases hnew
      · exact hfree hnew
    obtain ⟨hput, hgrows'⟩ := hsolid.put hat (hgrows _ hdir) hname hfree'
    exact ⟨hput, hgrows.trans hgrows'⟩

/-- **Making a directory** keeps a disk solid, and all directories. -/
theorem mkdir_solid {start : Location} {parts : List String} (h : d.Solid cwd)
    (hparts : ∀ part ∈ parts, IsPart part) (hstart : d.entry? start = some .directory)
    (hmkdir : d.mkdir start parts = .ok d') : Solid d' cwd ∧ Grows d d' := by
  obtain ⟨loc, hloc, hnone, rfl⟩ := mkdir_ok hmkdir
  obtain hdir | ⟨dir, name, hat, hdir, hname⟩ := h.locate hparts hstart hloc
  · rw [hnone] at hdir
    cases hdir
  · exact h.put hat hdir hname (by rw [hnone]; simp)

/-! ## Listing -/

theorem nameIn?_eq_some {dir loc : Location} {name : String} (h : nameIn? dir loc = some name) :
    loc = dir ++ [name] := by
  unfold nameIn? at h
  split at h
  · rename_i last hlast
    split at h
    · rename_i hdir
      rw [← Option.some.inj h, ← hdir]
      exact (List.dropLast_append_getLast? last hlast).symm
    · cases h
  · cases h

theorem mem_names {dir : Location} {name : String} :
    name ∈ d.names dir ↔ ∃ e, d.entry? (dir ++ [name]) = some e := by
  have hnil : dir ++ [name] ≠ [] := by simp
  rw [names, List.mem_filterMap]
  constructor
  · rintro ⟨⟨loc, e⟩, he, hname⟩
    unfold entry?
    rw [if_neg hnil, ← Option.isSome_iff_exists, Option.isSome_map, List.find?_isSome]
    exact ⟨_, he, decide_eq_true (nameIn?_eq_some hname)⟩
  · rintro ⟨e, he⟩
    unfold entry? at he
    rw [if_neg hnil, Option.map_eq_some_iff] at he
    obtain ⟨entry, hentry, -⟩ := he
    have hloc : entry.1 = dir ++ [name] := by simpa using List.find?_some hentry
    refine ⟨entry, List.mem_of_find?_eq_some hentry, ?_⟩
    simp [nameIn?, hloc]

/-- No character is in a directory that is not in the path of a file in it. -/
theorem mem_join {dir name : String} {c : Char} (hname : IsFileName name) (hdir : dir ≠ "")
    (h : c ∈ dir.toList) : c ∈ (join dir name).toList := by
  unfold join
  rw [hname.not_isAbsolute, show dir.isEmpty = false by simpa using hdir]
  simp only [Bool.or_self, Bool.false_eq_true, ↓reduceIte]
  split
  · simp [h]
  · simp [h]

theorem follow_append (start : Location) (ps qs : List String) :
    d.follow start (ps ++ qs) = (d.follow start ps).bind fun dir => d.follow dir qs := by
  induction ps generalizing start with
  | nil => rfl
  | cons part ps ih =>
    rw [List.cons_append, follow, follow]
    split
    · exact ih _
    · split
      · rfl
      · split
        · rfl
        · rfl
        · exact ih _

/-- Parts that can be followed lead where they are followed to. -/
theorem locate_of_follow {start loc : Location} {parts : List String}
    (h : d.follow start parts = .ok loc) : d.locate start parts = .ok loc := by
  unfold locate
  cases hlast : parts.getLast? with
  | none =>
    rw [List.getLast?_eq_none_iff.1 hlast] at h
    exact h
  | some last =>
    have hparts : parts = parts.dropLast ++ [last] := (List.dropLast_append_getLast? last hlast).symm
    obtain ⟨dir, hdir, hstep⟩ : ∃ dir, d.follow start parts.dropLast = .ok dir ∧
        d.follow dir [last] = .ok loc := by
      rw [hparts, follow_append] at h
      cases hdir : d.follow start parts.dropLast with
      | error e => rw [hdir] at h; cases h
      | ok dir => exact ⟨dir, rfl, by rwa [hdir] at h⟩
    simp only [hdir, bind, Except.bind]
    simp only [follow] at hstep
    split at hstep
    · rename_i hup
      rw [if_pos hup]
      exact hstep
    · rename_i hup
      rw [if_neg hup]
      split at hstep
      · cases hstep
      · rename_i hlength
        rw [if_neg hlength]
        split at hstep
        · cases hstep
        · cases hstep
        · exact hstep

/-- The directory around a file that a path leads to is there. -/
theorem Solid.around (h : d.Solid cwd) {dir name : String} {loc : Location} (hname : IsFileName name)
    (hdir : dir ≠ "") (hloc : d.locationOf cwd (join dir name) = .ok loc) :
    d.locationOf cwd dir = .ok (place cwd dir) ∧ d.entry? (place cwd dir) = some .directory := by
  have hpath := hname.ofText_join dir
  unfold Disk.locationOf at hloc
  split at hloc
  · cases hloc
  · rename_i hnul
    split at hloc
    · cases hloc
    · simp only [hpath, Disk.locate, List.getLast?_append, List.getLast?_singleton, Option.some_or,
        List.dropLast_concat] at hloc
      cases hfollow : d.follow (Disk.startOf cwd (Path.ofText dir)) (Path.ofText dir).parts with
      | error e =>
        have hstart : Disk.startOf cwd ⟨(Path.ofText dir).absolute, (Path.ofText dir).parts ++ [name]⟩ =
            Disk.startOf cwd (Path.ofText dir) := rfl
        rw [hstart, hfollow] at hloc
        cases hloc
      | ok around =>
        obtain rfl : around = place cwd dir := follow_eq_walk hfollow
        refine ⟨?_, h.follow (h.startOf _) hfollow⟩
        have hnul' : ¬ dir.toList.contains '\x00' = true := by
          intro hmem
          exact hnul (List.contains_iff_mem.2 (mem_join hname hdir (List.contains_iff_mem.1 hmem)))
        rw [Disk.locationOf, if_neg hnul', if_neg hdir]
        exact locate_of_follow hfollow

/-- **The directory around a file** that a path leads to can be listed. -/
theorem Solid.list_around (h : d.Solid cwd) {dir name : String} {loc : Location}
    (hname : IsFileName name) (hdir : dir ≠ "") (hloc : d.locationOf cwd (join dir name) = .ok loc) :
    d.list cwd dir = .ok ((d.names (place cwd dir)).mergeSort fun a b => compare a b != .gt) := by
  obtain ⟨haround, hentry⟩ := h.around hname hdir hloc
  simp only [list, haround, bind, Except.bind, hentry]

end Disk

end TypeFoundry.Files
