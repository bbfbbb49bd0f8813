import Mathlib.Data.List.Induction

/-!
# Lists in which the last of a kind counts

Some elements of a list have a key, and those of one key are of a kind. `settled` keeps one element of
each kind, the last, in the place of the first, and every element without a key.
`foldl_putByKey` says that this is what comes of entering the elements one after the other.
-/

set_option autoImplicit false

namespace TypeFoundry

variable {α κ : Type} [DecidableEq κ] (key : α → Option κ)

/-- Whether the elements have the same key. -/
def sameKey (a b : α) : Bool := (key a).isSome && key a = key b

/-- The list with the element in the place of the first of its kind, or at the end. -/
def putByKey (a : α) : List α → List α
  | [] => [a]
  | b :: bs => if sameKey key a b then a :: bs else b :: putByKey a bs

/-- The last element of the kind of `a`, which stands in front of the list. -/
def lastOfKind (a : α) (as : List α) : α := ((as.filter (sameKey key a)).getLast?).getD a

/-- The last element of each kind, in the place of the first, and the elements without a key. -/
def settled : List α → List α
  | [] => []
  | a :: as => lastOfKind key a as :: (settled as).filter fun b => !sameKey key a b

variable {key}

theorem sameKey_iff {a b : α} : sameKey key a b = true ↔ ∃ k, key a = some k ∧ key b = some k := by
  unfold sameKey
  cases key a <;> simp [eq_comm]

theorem sameKey_eq_false_of_none {a b : α} (h : key a = none) : sameKey key a b = false := by
  simp [sameKey, h]

theorem sameKey_congr {a b : α} (h : sameKey key a b = true) (c : α) :
    sameKey key a c = sameKey key b c := by
  obtain ⟨k, ha, hb⟩ := sameKey_iff.1 h
  simp [sameKey, ha, hb]

theorem sameKey_comm (a b : α) : sameKey key a b = sameKey key b a := by
  rw [Bool.eq_iff_iff, sameKey_iff, sameKey_iff]
  exact exists_congr fun k => and_comm

/-- The last of a kind has the key of that kind. -/
theorem key_lastOfKind (a : α) (as : List α) : key (lastOfKind key a as) = key a := by
  unfold lastOfKind
  cases hlast : (as.filter (sameKey key a)).getLast? with
  | none => rfl
  | some b =>
    have hb : sameKey key a b = true := (List.mem_filter.1 (List.mem_of_getLast? hlast)).2
    obtain ⟨k, ha, hb⟩ := sameKey_iff.1 hb
    exact hb.trans ha.symm

theorem sameKey_lastOfKind (a b : α) (as : List α) :
    sameKey key b (lastOfKind key a as) = sameKey key b a := by
  simp only [sameKey, key_lastOfKind]

theorem lastOfKind_append (a b : α) (as : List α) :
    lastOfKind key a (as ++ [b]) = if sameKey key a b then b else lastOfKind key a as := by
  unfold lastOfKind
  rw [List.filter_append]
  by_cases h : sameKey key a b = true <;> simp [h]

/-! ## Entering elements -/

theorem putByKey_cons (a b : α) (bs : List α) :
    putByKey key a (b :: bs) = if sameKey key a b then a :: bs else b :: putByKey key a bs := rfl

/-- An element that does not count leaves no trace among those that do. -/
theorem filter_putByKey_of_false {p : α → Bool} {a : α} (ha : p a = false)
    (hp : ∀ b, sameKey key a b = true → p b = false) (as : List α) :
    (putByKey key a as).filter p = as.filter p := by
  induction as with
  | nil => simp [putByKey, ha]
  | cons b bs ih =>
    rw [putByKey_cons]
    split
    · rename_i hab
      rw [List.filter_cons_of_neg (by simp [ha]), List.filter_cons_of_neg (by simp [hp b hab])]
    · rw [List.filter_cons, List.filter_cons, ih]

theorem filter_putByKey_of_true {p : α → Bool} {a : α} (ha : p a = true)
    (hp : ∀ b, sameKey key a b = true → p b = true) (as : List α) :
    (putByKey key a as).filter p = putByKey key a (as.filter p) := by
  induction as with
  | nil => simp [putByKey, ha]
  | cons b bs ih =>
    rw [putByKey_cons]
    split
    · rename_i hab
      rw [List.filter_cons_of_pos ha, List.filter_cons_of_pos (hp b hab), putByKey_cons, if_pos hab]
    · rename_i hab
      rw [List.filter_cons, List.filter_cons, ih]
      split
      · rw [putByKey_cons, if_neg hab]
      · rfl

/-- One more element takes the place of the one of its kind. -/
theorem settled_append (as : List α) (a : α) :
    settled key (as ++ [a]) = putByKey key a (settled key as) := by
  induction as with
  | nil => rfl
  | cons b bs ih =>
    rw [List.cons_append, settled, settled, ih, lastOfKind_append, putByKey_cons, sameKey_lastOfKind,
      sameKey_comm a b]
    cases hab : sameKey key b a with
    | true =>
      rw [filter_putByKey_of_false (by simp [hab])]
      · rfl
      · intro c hc
        rw [sameKey_congr hab, hc]
        rfl
    | false =>
      rw [filter_putByKey_of_true (by simp [hab])]
      · rfl
      · intro c hc
        rw [sameKey_comm b c, ← sameKey_congr hc, sameKey_comm, hab]
        rfl

/-- **Entering elements one after the other** leaves the last of each kind in the place of the first. -/
theorem foldl_putByKey (as : List α) :
    as.foldl (fun found a => putByKey key a found) [] = settled key as := by
  induction as using List.reverseRecOn with
  | nil => rfl
  | append_singleton as a ih => rw [List.foldl_append, ih, settled_append]; rfl

/-! ## What is kept -/

/-- **The last of each kind is kept**, and no other of it. -/
theorem filter_key_settled (k : κ) (as : List α) :
    (settled key as).filter (fun a => key a = some k) =
      ((as.filter fun a => key a = some k).getLast?).toList := by
  induction as with
  | nil => rfl
  | cons a as ih =>
    rw [settled, List.filter_cons, List.filter_filter]
    simp only [key_lastOfKind]
    by_cases ha : key a = some k
    · have hsame : sameKey key a = fun b => decide (key b = some k) := by
        funext b
        rw [Bool.eq_iff_iff, sameKey_iff]
        simp [ha, eq_comm]
      have hnone : ((settled key as).filter fun b => decide (key b = some k) && !sameKey key a b) = [] := by
        simp [hsame]
      rw [List.filter_cons_of_pos (by simpa using ha), List.getLast?_cons, hnone, lastOfKind, hsame]
      simp [ha]
    · have hsame : ∀ b, (decide (key b = some k) && !sameKey key a b) = decide (key b = some k) := by
        intro b
        by_cases hb : key b = some k
        · have : sameKey key a b = false := by
            simp [sameKey, hb, ha]
          simp [hb, this]
        · simp [hb]
      rw [List.filter_cons_of_neg (by simpa using ha)]
      simp only [hsame, ih]
      simp [ha]

/-- **Elements without a key are all kept**, in their order. -/
theorem filter_none_settled (as : List α) :
    (settled key as).filter (fun a => key a = none) = as.filter fun a => key a = none := by
  induction as with
  | nil => rfl
  | cons a as ih =>
    have hsame : ∀ b, (decide (key b = none) && !sameKey key a b) = decide (key b = none) := by
      intro b
      by_cases hb : key b = none
      · simp [hb, sameKey_comm a b, sameKey_eq_false_of_none hb]
      · simp [hb]
    rw [settled, List.filter_cons, List.filter_filter]
    simp only [key_lastOfKind]
    simp only [hsame, ih]
    by_cases ha : key a = none
    · have hnone : as.filter (sameKey key a) = [] := by
        rw [List.filter_eq_nil_iff]
        intro b _
        simp [sameKey_eq_false_of_none ha]
      have hlast : lastOfKind key a as = a := by rw [lastOfKind, hnone]; rfl
      simp [ha, hlast]
    · simp [ha]

theorem mem_of_mem_settled {as : List α} {a : α} (h : a ∈ settled key as) : a ∈ as := by
  induction as with
  | nil => exact h
  | cons b bs ih =>
    rw [settled] at h
    obtain rfl | h := List.mem_cons.1 h
    · unfold lastOfKind
      cases hlast : (bs.filter (sameKey key b)).getLast? with
      | none => exact List.mem_cons_self
      | some c => exact List.mem_cons_of_mem _ (List.mem_filter.1 (List.mem_of_getLast? hlast)).1
    · exact List.mem_cons_of_mem _ (ih (List.mem_filter.1 h).1)

/-- Without repetitions, one more element stands at the end unless it is there. -/
theorem eraseDups_concat [BEq α] [LawfulBEq α] (as : List α) (a : α) :
    (as ++ [a]).eraseDups = if a ∈ as then as.eraseDups else as.eraseDups ++ [a] := by
  rw [List.eraseDups_append, List.removeAll]
  by_cases ha : a ∈ as
  · simp [ha]
  · simp [ha, List.eraseDups_cons]

end TypeFoundry
