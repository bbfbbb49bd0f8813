import TypeFoundry.Proofs.Latest

/-!
# The log of registrations

Two notions of sameness meet in a registry: a type that is there already is not entered again, which
goes by the identity of its module and its full name, while of several entries of one full name the last
one counts. `registerAll_log` says what a run of registrations leaves, whatever handles it is of: the log
has each type once, where it was first given, and a search from the end and the list of the latest
entries show the same handle of each full name.
-/

set_option autoImplicit false

namespace TypeFoundry

/-- Without repetitions, one more element stands at the end unless one like it is there. -/
theorem eraseDupsBy_concat {α : Type} {r : α → α → Bool}
    (htrans : ∀ a b c, r a b = true → r b c = true → r a c = true) (as : List α) (a : α) :
    (as ++ [a]).eraseDupsBy r =
      if as.any (r a) then as.eraseDupsBy r else as.eraseDupsBy r ++ [a] := by
  match as with
  | [] => rfl
  | b :: bs =>
    rw [List.cons_append, List.eraseDupsBy_cons, List.eraseDupsBy_cons, List.filter_append,
      List.any_cons]
    cases hab : r a b with
    | true => simp [hab]
    | false =>
      have hany : (bs.filter fun c => r c b = false).any (r a) = bs.any (r a) := by
        rw [List.any_filter, Bool.eq_iff_iff, List.any_eq_true, List.any_eq_true]
        refine exists_congr fun c => and_congr_right fun _ => ?_
        rw [Bool.and_eq_true, and_iff_right_of_imp]
        intro hac
        cases hcb : r c b with
        | false => rfl
        | true => rw [htrans a c b hac hcb] at hab; cases hab
      have hkept : [a].filter (fun c => r c b = false) = [a] := by simp [hab]
      rw [hkept, eraseDupsBy_concat htrans, hany, Bool.false_or]
      split <;> rfl
termination_by as.length
decreasing_by exact Nat.lt_succ_of_le (List.length_filter_le _ _)

namespace TypeHandle

theorem same_iff {a b : TypeHandle} :
    a.same b = true ↔ a.module.id = b.module.id ∧ a.path = b.path := by
  simp [same]

theorem same_trans {a b c : TypeHandle} (hab : a.same b = true) (hbc : b.same c = true) :
    a.same c = true := by
  rw [same_iff] at *
  exact ⟨hab.1.trans hbc.1, hab.2.trans hbc.2⟩

theorem same_comm (a b : TypeHandle) : a.same b = b.same a := by
  rw [Bool.eq_iff_iff, same_iff, same_iff, eq_comm, @eq_comm _ a.path]

theorem eraseDupsBy_same_concat (hs : List TypeHandle) (h : TypeHandle) :
    (hs ++ [h]).eraseDupsBy same =
      if hs.any h.same then hs.eraseDupsBy same else hs.eraseDupsBy same ++ [h] :=
  eraseDupsBy_concat (r := same) (fun _ _ _ hab hbc => same_trans hab hbc) hs h

/-- A type that is left is one that was there. -/
theorem any_eraseDupsBy_same (hs : List TypeHandle) (h : TypeHandle) :
    (hs.eraseDupsBy same).any (·.same h) = hs.any h.same := by
  induction hs using List.reverseRecOn with
  | nil => rfl
  | append_singleton hs g ih =>
    rw [eraseDupsBy_same_concat, List.any_append, List.any_cons, List.any_nil, Bool.or_false]
    split
    · rename_i hany
      rw [ih, Bool.eq_iff_iff, Bool.or_eq_true, iff_self_or]
      intro hsame
      obtain ⟨f, hf, hgf⟩ := List.any_eq_true.1 hany
      exact List.any_eq_true.2 ⟨f, hf, same_trans hsame hgf⟩
    · rw [List.any_append, ih, List.any_cons, List.any_nil, Bool.or_false, same_comm g]

end TypeHandle

/-! ## The latest handles -/

/-- The full names stay where they are; a new one comes last. -/
theorem map_path_putByName (h : TypeHandle) (gs : List TypeHandle) :
    (putByName h gs).map (·.path) =
      if h.path ∈ gs.map (·.path) then gs.map (·.path) else gs.map (·.path) ++ [h.path] := by
  induction gs with
  | nil => rfl
  | cons g gs ih =>
    rw [putByName]
    by_cases hg : g.path = h.path
    · simp [hg]
    · rw [if_neg hg, List.map_cons, ih]
      simp only [List.map_cons, List.mem_cons, Ne.symm hg, false_or]
      split <;> rfl

/-- **The latest handles** stand in the order in which their full names first occur. -/
theorem map_path_latestByName (hs : List TypeHandle) :
    (latestByName hs).map (·.path) = (hs.map (·.path)).eraseDups := by
  induction hs using List.reverseRecOn with
  | nil => rfl
  | append_singleton hs h ih =>
    have hput : latestByName (hs ++ [h]) = putByName h (latestByName hs) := by
      simp [latestByName]
    rw [hput, map_path_putByName, ih, List.map_append, List.map_singleton, eraseDups_concat]
    simp only [List.mem_eraseDups]

/-- Among the latest handles, that of a full name is the last one of it. -/
theorem find?_latestByName (hs : List TypeHandle) (path : TypePath) :
    (latestByName hs).find? (·.path = path) = lastNamed? path hs := by
  rw [← List.head?_filter, filter_latestByName, Option.head?_toList]

namespace Registry

variable {r : Registry}

/-- What comes of the registrations, one after the other, with the registry after them. -/
def registerAll : List TypeHandle → Registry → List Bool × Registry
  | [], r => ([], r)
  | h :: hs, r =>
    let (entered, r) := r.register h
    let (rest, r) := registerAll hs r
    (entered :: rest, r)

theorem registerAll_append (hs gs : List TypeHandle) (r : Registry) :
    registerAll (hs ++ gs) r =
      ((registerAll hs r).1 ++ (registerAll gs (registerAll hs r).2).1,
        (registerAll gs (registerAll hs r).2).2) := by
  induction hs generalizing r with
  | nil => rfl
  | cons h hs ih =>
    simp only [List.cons_append, registerAll, ih]

theorem length_registerAll (hs : List TypeHandle) (r : Registry) :
    (registerAll hs r).1.length = hs.length := by
  induction hs generalizing r with
  | nil => rfl
  | cons h hs ih => simp only [registerAll, List.length_cons, ih]

/-- The entries after a run are the types that were given, each where it came first. -/
theorem entries_registerAll (hs : List TypeHandle) :
    (registerAll hs empty).2.entries = hs.eraseDupsBy TypeHandle.same := by
  induction hs using List.reverseRecOn with
  | nil => rfl
  | append_singleton hs h ih =>
    have hstep : (registerAll (hs ++ [h]) empty).2 = ((registerAll hs empty).2.register h).2 := by
      rw [registerAll_append]
      rfl
    rw [hstep, register, holds, ih, TypeHandle.any_eraseDupsBy_same, TypeHandle.eraseDupsBy_same_concat]
    split
    · exact ih
    · rfl

/-- A registration after a run is accepted if the type was not given before, and changes nothing if it
was. -/
theorem register_registerAll (hs : List TypeHandle) (h : TypeHandle) :
    (registerAll hs empty).2.register h =
      if hs.any h.same then (false, (registerAll hs empty).2)
      else (true, ⟨(registerAll hs empty).2.entries ++ [h]⟩) := by
  rw [register, holds, entries_registerAll, TypeHandle.any_eraseDupsBy_same]

/-- The answer to a registration says whether the type is given for the first time. -/
theorem answers_registerAll (before : List TypeHandle) (h : TypeHandle) (after : List TypeHandle) :
    (registerAll (before ++ h :: after) empty).1[before.length]? = some !before.any h.same := by
  rw [registerAll_append, List.getElem?_append_right (Nat.le_of_eq (length_registerAll _ _)),
    length_registerAll, Nat.sub_self, registerAll, register_registerAll]
  cases before.any h.same <;> rfl

/-- **The registry is a log without repetitions**, in which the last entry of a full name counts.
Whatever handles are registered, one after the other: the entries are the handles without those of a type
that was given before, and each answer says whether its type was not. A further registration puts its
handle behind the entries, or changes nothing if the type was given before. The entry that is found is
the last one of the full name. The latest entries are one of each full name, in the order in which the
names were first entered, and each is the one that is found. -/
theorem registerAll_log (hs : List TypeHandle) :
    (registerAll hs empty).2.entries = hs.eraseDupsBy TypeHandle.same ∧
    (registerAll hs empty).1.length = hs.length ∧
    (∀ i : Fin hs.length, (registerAll hs empty).1[i.val]? = some !(hs.take i).any hs[i].same) ∧
    (∀ h, (registerAll hs empty).2.register h =
      if hs.any h.same then (false, (registerAll hs empty).2)
      else (true, ⟨(registerAll hs empty).2.entries ++ [h]⟩)) ∧
    (∀ path, (registerAll hs empty).2.find? path =
      ((registerAll hs empty).2.entries.filter (·.path = path)).getLast?) ∧
    (registerAll hs empty).2.latest.map (·.path) =
      ((registerAll hs empty).2.entries.map (·.path)).eraseDups ∧
    ∀ path, (registerAll hs empty).2.latest.find? (·.path = path) =
      (registerAll hs empty).2.find? path := by
  refine ⟨entries_registerAll hs, length_registerAll hs empty, fun i => ?_, register_registerAll hs,
    fun path => ?_, map_path_latestByName _, find?_latestByName _⟩
  · have hsplit : hs = hs.take i ++ hs[i] :: hs.drop (i + 1) := by
      rw [Fin.getElem_fin, ← List.drop_eq_getElem_cons, List.take_append_drop]
    have hanswer := answers_registerAll (hs.take i) hs[i] (hs.drop (i + 1))
    rwa [← hsplit, List.length_take, Nat.min_eq_left (Nat.le_of_lt i.isLt)] at hanswer
  · rw [List.getLast?_filter]
    rfl

end Registry

end TypeFoundry
