import Mathlib.Data.List.Basic
import TypeFoundry.Files.Disk
import TypeFoundry.Files.Path
import TypeFoundry.Proofs.Splitting

/-!
# Where paths lead

A path that can be followed leads to the location that is written in it (`place`,
`locationOf_eq_place`), whatever is on the disk. So the name that a path ends with is the name at the
end of its location (`getLast?_place`), and a name joined to a directory stands right in the directory
(`place_join`).
-/

set_option autoImplicit false

namespace TypeFoundry.Files

open Text

/-- The location that the parts describe, seen from the given one. -/
def walk (start : Location) (parts : List String) : Location :=
  parts.foldl (fun loc part => if part = ".." then loc.dropLast else loc ++ [part]) start

/-- The location that the path describes, seen from the current directory. -/
def place (cwd : Location) (text : String) : Location :=
  walk (Disk.startOf cwd (Path.ofText text)) (Path.ofText text).parts

theorem walk_append (start : Location) (ps qs : List String) :
    walk start (ps ++ qs) = walk (walk start ps) qs := by
  simp [walk]

theorem walk_snoc {start : Location} {ps : List String} {part : String} (h : part ≠ "..") :
    walk start (ps ++ [part]) = walk start ps ++ [part] := by
  rw [walk_append]
  simp [walk, h]

/-- Parts with no way up lead down. -/
theorem walk_down {start : Location} {parts : List String} (h : ".." ∉ parts) :
    walk start parts = start ++ parts := by
  induction parts generalizing start with
  | nil => simp [walk]
  | cons part parts ih =>
    obtain ⟨hpart, hparts⟩ := not_or.1 (List.mem_cons.not.1 h)
    rw [List.append_cons, ← ih hparts]
    simp [walk, Ne.symm hpart]

namespace Disk

variable {d : Disk}

theorem follow_eq_walk {loc loc' : Location} {parts : List String}
    (h : d.follow loc parts = .ok loc') : loc' = walk loc parts := by
  induction parts generalizing loc with
  | nil => exact (Except.ok.inj h).symm
  | cons part parts ih =>
    simp only [follow] at h
    split at h
    · rename_i hup
      rw [ih h]
      simp [walk, hup]
    · rename_i hup
      split at h
      · cases h
      · split at h
        · cases h
        · cases h
        · rw [ih h]
          simp [walk, hup]

theorem locate_eq_walk {start loc : Location} {parts : List String}
    (h : d.locate start parts = .ok loc) : loc = walk start parts := by
  unfold locate at h
  split at h
  · rename_i hnone
    rw [List.getLast?_eq_none_iff.1 hnone]
    exact (Except.ok.inj h).symm
  · rename_i last hlast
    have hparts : parts = parts.dropLast ++ [last] := (List.dropLast_append_getLast? last hlast).symm
    cases hdir : d.follow start parts.dropLast with
    | error e => rw [hdir] at h; cases h
    | ok dir =>
      rw [hdir] at h
      have hwalk := follow_eq_walk hdir
      simp only [bind, Except.bind] at h
      split at h
      · rename_i hup
        rw [hparts, walk_append, ← hwalk, ← Except.ok.inj h]
        simp [walk, hup]
      · rename_i hup
        split at h
        · cases h
        · rw [hparts, walk_snoc hup, ← hwalk]
          exact (Except.ok.inj h).symm

/-- **A path that can be followed** leads to the location that is written in it. -/
theorem locationOf_eq_place {cwd loc : Location} {text : String}
    (h : d.locationOf cwd text = .ok loc) : loc = place cwd text := by
  unfold locationOf at h
  split at h
  · cases h
  · split at h
    · cases h
    · exact locate_eq_walk h

end Disk

/-! ## The last name of a path -/

theorem parts_ofText (text : String) :
    (Path.ofText text).parts = (columns '/' text).filter fun part => part ≠ "" ∧ part ≠ "." := rfl

/-- A name that ends in three or more characters is no dots and not empty. -/
theorem ne_dots {t part : String} (ht : 2 < t.toList.length) (h : t.toList <:+ part.toList) :
    part ≠ "" ∧ part ≠ "." ∧ part ≠ ".." := by
  have hlength : 2 < part.toList.length := Nat.lt_of_lt_of_le ht h.length_le
  refine ⟨?_, ?_, ?_⟩ <;> (rintro rfl; revert hlength; decide)

/-- A text without a slash goes to the last name of the path in front of it. -/
theorem place_append {cwd : Location} {s t : String} (hslash : '/' ∉ t.toList) (ht : 2 < t.toList.length) :
    ∃ dir last, place cwd (s ++ t) = dir ++ [last ++ t] ∧ '/' ∉ last.toList := by
  obtain ⟨init, last, hs, hst⟩ := columns_append hslash s
  have hsuffix : t.toList <:+ (last ++ t).toList := by simp
  have hdots := ne_dots ht hsuffix
  have hparts : (Path.ofText (s ++ t)).parts =
      init.filter (fun part => part ≠ "" ∧ part ≠ ".") ++ [last ++ t] := by
    rw [parts_ofText, hst, List.filter_append]
    congr 1
    simp [hdots.1, hdots.2.1]
  refine ⟨_, last, by rw [place, hparts, walk_snoc hdots.2.2], ?_⟩
  have hmem : last ∈ columns '/' s := by simp [hs]
  exact not_mem_of_mem_columns hmem

/-- **The name that a path ends with** is the name at the end of its location. -/
theorem getLast?_place {cwd : Location} {s t : String} (hslash : '/' ∉ t.toList)
    (ht : 2 < t.toList.length) :
    ∃ name, (place cwd (s ++ t)).getLast? = some name ∧ t.toList <:+ name.toList := by
  obtain ⟨dir, last, hplace, -⟩ := @place_append cwd s t hslash ht
  exact ⟨last ++ t, by simp [hplace], by simp⟩

/-! ## Joining -/

/-- The path behind a directory ends with what the name ends with. -/
theorem join_eq_append (dir s t : String) : ∃ x, join dir (s ++ t) = x ++ t := by
  unfold join
  split
  · exact ⟨s, rfl⟩
  · split
    · exact ⟨dir ++ s, (String.append_assoc ..).symm⟩
    · exact ⟨dir ++ "/" ++ s, (String.append_assoc ..).symm⟩

/-- The text can name a file in a directory. -/
structure IsFileName (name : String) : Prop where
  ne_empty : name ≠ ""
  ne_dot : name ≠ "."
  ne_up : name ≠ ".."
  noSlash : '/' ∉ name.toList

namespace IsFileName

variable {name : String}

theorem not_isAbsolute (h : IsFileName name) : isAbsolute name = false := by
  rw [isAbsolute, String.startsWith_string_eq_false_iff]
  intro hstart
  exact h.noSlash (hstart.subset (by decide))

theorem filter_columns (h : IsFileName name) :
    (columns '/' name).filter (fun part => part ≠ "" ∧ part ≠ ".") = [name] := by
  simp [columns_of_not_mem h.noSlash, h.ne_empty, h.ne_dot]

/-- The path of a name in a directory that is named. -/
theorem ofText_append {dir x : String} (hdir : dir ≠ "")
    (hx : (columns '/' (dir ++ x)).filter (fun part => part ≠ "" ∧ part ≠ ".") =
      (Path.ofText dir).parts ++ [name]) :
    Path.ofText (dir ++ x) = ⟨(Path.ofText dir).absolute, (Path.ofText dir).parts ++ [name]⟩ := by
  have habsolute : (dir ++ x).startsWith "/" = dir.startsWith "/" := by
    obtain ⟨c, cs, hc⟩ := List.exists_cons_of_ne_nil
      fun hnil => hdir (String.toList_eq_nil_iff.1 hnil)
    rw [Bool.eq_iff_iff, String.startsWith_string_iff, String.startsWith_string_iff,
      String.toList_append, hc]
    simp
  rw [Path.ofText, habsolute, hx]
  rfl

/-- **The path of a name joined to a directory** has the name behind the parts of the directory. -/
theorem ofText_join (h : IsFileName name) (dir : String) :
    Path.ofText (join dir name) =
      ⟨(Path.ofText dir).absolute, (Path.ofText dir).parts ++ [name]⟩ := by
  unfold join
  by_cases hempty : dir = ""
  · subst hempty
    have hname : (Path.ofText name).absolute = false := h.not_isAbsolute
    rw [if_pos (by simp), Path.ofText, h.filter_columns]
    exact congrArg (Path.mk · [name]) hname
  · rw [h.not_isAbsolute, show dir.isEmpty = false by simpa using hempty]
    simp only [Bool.or_self, Bool.false_eq_true, ↓reduceIte]
    split
    · rename_i hend
      -- the directory ends with a slash, which leaves an empty part that does not count
      have hsuffix : "/".toList <:+ dir.toList := by
        rw [← String.copy_toSlice (s := dir)]
        exact String.Slice.endsWith_string_iff.1 hend
      obtain ⟨x, hx⟩ := hsuffix
      have hdir : dir = .ofList x ++ "/" := by
        rw [← String.toList_inj, ← hx]
        simp
      refine ofText_append hempty ?_
      rw [parts_ofText, hdir, String.append_assoc, columns_append_sep (by rfl),
        List.filter_append, h.filter_columns]
      have := @columns_append_sep '/' (.ofList x) "" "/" rfl
      rw [String.append_empty] at this
      rw [this, List.filter_append]
      simp [columns, splitOnChar]
    · rw [String.append_assoc]
      refine ofText_append hempty ?_
      rw [columns_append_sep (by rfl), List.filter_append, h.filter_columns, parts_ofText]

end IsFileName

/-- **A name joined to a directory** stands right in the directory. -/
theorem place_join {name : String} (h : IsFileName name) (cwd : Location) (dir : String) :
    place cwd (join dir name) = place cwd dir ++ [name] := by
  rw [place, h.ofText_join, walk_snoc h.ne_up]
  rfl

end TypeFoundry.Files
