import TypeFoundry.Text.Lines

/-!
# Cutting texts at a character

What stands behind a separator is cut on its own (`splitOnChar_append_sep`), and what stands behind
a text without one goes to the text's last part (`splitOnChar_append`). `columns_intercalate` and
`lines_join` put these together: columns and lines that were joined come apart again.
-/

set_option autoImplicit false

namespace TypeFoundry.Text

variable {sep : Char}

theorem splitOnChar_ne_nil (sep : Char) (cs : List Char) : splitOnChar sep cs ≠ [] := by
  cases cs with
  | nil => simp [splitOnChar]
  | cons c cs =>
    simp only [splitOnChar]
    split
    · simp
    · split <;> simp

@[simp] theorem splitOnChar_sep (cs : List Char) :
    splitOnChar sep (sep :: cs) = [] :: splitOnChar sep cs := by
  simp [splitOnChar]

theorem splitOnChar_cons {c : Char} {cs part : List Char} {parts : List (List Char)} (hc : c ≠ sep)
    (h : splitOnChar sep cs = part :: parts) :
    splitOnChar sep (c :: cs) = (c :: part) :: parts := by
  simp [splitOnChar, hc, h]

/-- A text without separators is one part. -/
theorem splitOnChar_of_not_mem {cs : List Char} (h : sep ∉ cs) : splitOnChar sep cs = [cs] := by
  induction cs with
  | nil => rfl
  | cons c cs ih =>
    rw [List.mem_cons, not_or] at h
    exact splitOnChar_cons (Ne.symm h.1) (ih h.2)

/-- A text without separators goes to the last part of what is in front of it. -/
theorem splitOnChar_append {b : List Char} (hb : sep ∉ b) (a : List Char) :
    ∃ init last, splitOnChar sep a = init ++ [last] ∧
      splitOnChar sep (a ++ b) = init ++ [last ++ b] := by
  induction a with
  | nil => exact ⟨[], [], rfl, by simp [splitOnChar_of_not_mem hb]⟩
  | cons c a ih =>
    obtain ⟨init, last, ha, hab⟩ := ih
    by_cases hc : c = sep
    · subst hc
      exact ⟨[] :: init, last, by simp [ha], by simp [hab]⟩
    · cases init with
      | nil => exact ⟨[], c :: last, splitOnChar_cons hc ha, splitOnChar_cons hc hab⟩
      | cons part init =>
        exact ⟨(c :: part) :: init, last, splitOnChar_cons hc ha, splitOnChar_cons hc hab⟩

/-- A separator ends a part. -/
theorem splitOnChar_append_sep (a b : List Char) :
    splitOnChar sep (a ++ sep :: b) = splitOnChar sep a ++ splitOnChar sep b := by
  induction a with
  | nil => simp [splitOnChar]
  | cons c a ih =>
    by_cases hc : c = sep
    · subst hc
      simp [ih]
    · obtain ⟨part, parts, ha⟩ := List.exists_cons_of_ne_nil (splitOnChar_ne_nil sep a)
      rw [ha, List.cons_append] at ih
      rw [List.cons_append, splitOnChar_cons hc ih, splitOnChar_cons hc ha, List.cons_append]

/-! ## Joined texts -/

/-- What is in no part and not between the parts is not in the whole. -/
theorem not_mem_intercalate {m : String} {ss : List String} {c : Char} (hm : c ∉ m.toList)
    (h : ∀ s ∈ ss, c ∉ s.toList) : c ∉ (m.intercalate ss).toList := by
  induction ss with
  | nil => simp
  | cons s ss ih =>
    have hs := h s List.mem_cons_self
    have ih := ih fun t ht => h t (List.mem_cons_of_mem _ ht)
    cases ss with
    | nil =>
      rw [String.intercalate_singleton]
      exact hs
    | cons t ss =>
      rw [String.intercalate_cons_cons, String.toList_append, String.toList_append, List.mem_append,
        List.mem_append]
      rintro ((hc | hc) | hc)
      · exact hs hc
      · exact hm hc
      · exact ih hc

/-- The whole ends as its last part does. -/
theorem getLast?_intercalate {m s : String} (hs : s.toList ≠ []) (ss : List String) :
    (m.intercalate (ss ++ [s])).toList.getLast? = s.toList.getLast? := by
  induction ss with
  | nil => simp
  | cons t ss ih =>
    rw [List.cons_append, String.intercalate_cons_of_ne_nil (by simp), String.toList_append,
      List.getLast?_append, ih]
    obtain ⟨c, hc⟩ := Option.isSome_iff_exists.1 (List.getLast?_isSome.2 hs)
    rw [hc]
    rfl

/-! ## Columns -/

theorem columns_of_not_mem {s : String} (h : sep ∉ s.toList) : columns sep s = [s] := by
  simp [columns, splitOnChar_of_not_mem h]

theorem columns_append_sep {s t : String} {m : String} (hm : m.toList = [sep]) :
    columns sep (s ++ (m ++ t)) = columns sep s ++ columns sep t := by
  simp [columns, hm, splitOnChar_append_sep]

/-- A text without separators goes to the last column of what is in front of it. -/
theorem columns_append {t : String} (ht : sep ∉ t.toList) (s : String) :
    ∃ init last, columns sep s = init ++ [last] ∧ columns sep (s ++ t) = init ++ [last ++ t] := by
  obtain ⟨init, last, hs, hst⟩ := splitOnChar_append ht s.toList
  exact ⟨init.map .ofList, .ofList last, by simp [columns, hs], by simp [columns, hst]⟩

/-- **Columns that were joined** come apart again. -/
theorem columns_intercalate {m : String} (hm : m.toList = [sep]) {ss : List String} (hne : ss ≠ [])
    (h : ∀ s ∈ ss, sep ∉ s.toList) : columns sep (m.intercalate ss) = ss := by
  induction ss with
  | nil => exact absurd rfl hne
  | cons s ss ih =>
    have hs := h s List.mem_cons_self
    cases ss with
    | nil => rw [String.intercalate_singleton, columns_of_not_mem hs]
    | cons t ss =>
      have ih := ih (by simp) fun u hu => h u (List.mem_cons_of_mem _ hu)
      rw [String.intercalate_cons_cons, String.append_assoc, columns_append_sep hm,
        columns_of_not_mem hs, ih]
      rfl

theorem not_mem_splitOnChar {cs part : List Char} (h : part ∈ splitOnChar sep cs) : sep ∉ part := by
  induction cs generalizing part with
  | nil =>
    obtain rfl := List.mem_singleton.1 h
    exact List.not_mem_nil
  | cons c cs ih =>
    obtain ⟨first, parts, hcs⟩ := List.exists_cons_of_ne_nil (splitOnChar_ne_nil sep cs)
    rw [hcs] at ih
    by_cases hc : c = sep
    · subst hc
      rw [splitOnChar_sep, hcs] at h
      rcases List.mem_cons.1 h with rfl | h
      · exact List.not_mem_nil
      · exact ih h
    · rw [splitOnChar_cons hc hcs] at h
      rcases List.mem_cons.1 h with rfl | h
      · rw [List.mem_cons, not_or]
        exact ⟨Ne.symm hc, ih List.mem_cons_self⟩
      · exact ih (List.mem_cons_of_mem _ h)

theorem not_mem_of_mem_columns {s column : String} (h : column ∈ columns sep s) :
    sep ∉ column.toList := by
  obtain ⟨part, hpart, rfl⟩ := List.mem_map.1 h
  simpa using not_mem_splitOnChar hpart

theorem toList_intercalate_splitOnChar {m : String} (hm : m.toList = [sep]) (cs : List Char) :
    (m.intercalate ((splitOnChar sep cs).map .ofList)).toList = cs := by
  induction cs with
  | nil => simp [splitOnChar]
  | cons c cs ih =>
    obtain ⟨first, parts, hcs⟩ := List.exists_cons_of_ne_nil (splitOnChar_ne_nil sep cs)
    rw [hcs] at ih
    by_cases hc : c = sep
    · subst hc
      rw [splitOnChar_sep, hcs, List.map_cons, String.intercalate_cons_of_ne_nil (by simp),
        String.toList_append, String.toList_append, ih, hm]
      rfl
    · rw [splitOnChar_cons hc hcs]
      cases parts with
      | nil => simpa using ih
      | cons next parts => simpa [String.intercalate_cons_cons] using ih

/-- **The columns of a line** are the texts without the separator that make up the line. -/
theorem columns_eq_iff {m : String} (hm : m.toList = [sep]) {s : String} {ss : List String}
    (hne : ss ≠ []) :
    columns sep s = ss ↔ m.intercalate ss = s ∧ ∀ t ∈ ss, sep ∉ t.toList := by
  constructor
  · rintro rfl
    exact ⟨String.toList_inj.1 (toList_intercalate_splitOnChar hm s.toList),
      fun _ => not_mem_of_mem_columns⟩
  · rintro ⟨rfl, h⟩
    exact columns_intercalate hm hne h

/-! ## Lines -/

/-- The text is one line, and nothing at its end belongs to a line end. -/
structure IsLine (s : String) : Prop where
  noFeed : '\n' ∉ s.toList
  noReturn : s.toList.getLast? ≠ some '\r'

theorem lineList_cons {line : List Char} {lines : List (List Char)} (hne : lines ≠ []) :
    lineList (line :: lines) = dropReturn line :: lineList lines := by
  cases lines with
  | nil => exact absurd rfl hne
  | cons _ _ => rfl

/-- **Lines that were joined** come apart again. -/
theorem lines_join {ss : List String} (h : ∀ s ∈ ss, IsLine s) :
    lines (String.join (ss.map (· ++ "\n"))) = ss := by
  induction ss with
  | nil => rfl
  | cons s ss ih =>
    obtain ⟨hfeed, hreturn⟩ := h s List.mem_cons_self
    have ih := ih fun t ht => h t (List.mem_cons_of_mem _ ht)
    have hline : dropReturn s.toList = s.toList := by rw [dropReturn, if_neg hreturn]
    have htext : (String.join ((s :: ss).map (· ++ "\n"))).toList =
        s.toList ++ '\n' :: (String.join (ss.map (· ++ "\n"))).toList := by
      simp [String.join_cons]
    unfold lines at ih ⊢
    rw [htext, splitOnChar_append_sep, splitOnChar_of_not_mem hfeed, List.singleton_append,
      lineList_cons (splitOnChar_ne_nil _ _), hline, List.map_cons, ih, String.ofList_toList]

end TypeFoundry.Text
