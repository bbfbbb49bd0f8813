import TypeFoundry.Modules.Descriptor
import TypeFoundry.Proofs.FullNames

/-!
# Descriptors read back

A number of 64 bits that is written in decimal digits is read as that number (`number?_toString`).
With this each line of a descriptor is read as what it was written for, and `read_render` says that
the text that describes types is read as those types, in their order and with their fields in order.
-/

set_option autoImplicit false

namespace TypeFoundry

open Text

/-! ## Numbers -/

namespace Text

theorem isDigit_of_mem_toString {n : Nat} {c : Char} (h : c ∈ (toString n).toList) :
    c.isDigit = true := by
  rw [Nat.toString_eq_repr, Nat.toList_repr] at h
  exact Nat.isDigit_of_mem_toDigits (by decide) (by decide) h

theorem toList_toString_ne_nil (n : Nat) : (toString n).toList ≠ [] := by
  rw [Nat.toString_eq_repr]
  intro h
  exact Nat.repr_ne_empty (String.toList_inj.1 h)

/-- **A number of 64 bits** that is written in digits is read as that number. -/
theorem number?_toString {n : Nat} (h : n < wordBound) : number? (toString n) = some n := by
  have hall : ∀ c ∈ (toString n).toList, c.isDigit = true := fun c hc => isDigit_of_mem_toString hc
  have hvalue : digitsValue (toString n).toList = n := by
    rw [Nat.toString_eq_repr, Nat.toList_repr, digitsValue_toDigits]
  have hdigits : digits? (toString n).toList = some n := by
    have hne := toList_toString_ne_nil n
    rw [digits?, hvalue, if_pos]
    simp only [Bool.and_eq_true, Bool.not_eq_true', List.isEmpty_eq_false_iff, ne_eq,
      List.all_eq_true, decide_eq_true_eq]
    exact ⟨⟨hne, hall⟩, h⟩
  unfold number?
  split
  · rename_i ds hds
    -- a sign is no digit
    have hplus : '+' ∈ (toString n).toList := by
      rw [hds]
      exact List.mem_cons_self
    exact absurd (hall '+' hplus) (by decide)
  · exact hdigits

end Text

/-! ## Lines -/

/-- The text can stand in a column. -/
def IsColumn (s : String) : Prop := '\t' ∉ s.toList ∧ '\n' ∉ s.toList

theorem isColumn_of_isIdentifier {w : String} (h : isIdentifier w = true) : IsColumn w :=
  ⟨Synthesis.not_mem_identifier h (by decide) (by decide) (by decide),
    Synthesis.not_mem_identifier h (by decide) (by decide) (by decide)⟩

theorem TypePath.IsDeclared.isColumn {p : TypePath} (h : p.IsDeclared) : IsColumn p.display :=
  ⟨not_mem_display h (by decide) (by decide) (by decide),
    not_mem_display h (by decide) (by decide) (by decide)⟩

theorem isColumn_toString (n : Nat) : IsColumn (toString n) := by
  refine ⟨fun h => ?_, fun h => ?_⟩ <;> exact absurd (isDigit_of_mem_toString h) (by decide)

/-- What a field is printed as can be read back. -/
structure FieldLayout.Printable (f : FieldLayout) : Prop where
  name : IsColumn f.name
  typeName : IsColumn f.typeName
  offset : f.offset < wordBound

/-- What a type is printed as can be read back. -/
structure TypeLayout.Printable (t : TypeLayout) : Prop where
  path : t.path.IsDeclared
  size : t.size < wordBound
  align : t.align < wordBound
  fields : ∀ f ∈ t.fields, f.Printable

namespace Descriptor

/-- The columns of the line of a type. -/
def typeColumns (t : TypeLayout) : List String :=
  ["type", t.path.display, toString t.size, toString t.align]

/-- The columns of the line of a field. -/
def fieldColumns (owner : TypePath) (f : FieldLayout) : List String :=
  ["field", owner.display, f.name, f.typeName, toString f.offset]

/-- The columns of the lines of a type and its fields. -/
def columnsOf (t : TypeLayout) : List (List String) :=
  typeColumns t :: t.fields.map (fieldColumns t.path)

/-- Columns with a number at the end. -/
structure IsRow (ss : List String) : Prop where
  columns : ∀ s ∈ ss, IsColumn s
  number : ∃ (init : List String) (n : Nat), ss = init ++ [toString n]

theorem render_eq (ts : List TypeLayout) :
    render ts = String.join (((ts.flatMap columnsOf).map ("\t".intercalate ·)).map (· ++ "\n")) := by
  have hlines : ∀ t, typeLines t = ((columnsOf t).map ("\t".intercalate ·)).map (· ++ "\n") := by
    intro t
    simp only [typeLines, columnsOf, List.map_cons, List.map_map]
    rfl
  rw [render]
  congr 1
  induction ts with
  | nil => rfl
  | cons t ts ih => rw [List.flatMap_cons, ih, hlines, List.flatMap_cons, List.map_append, List.map_append]

theorem isRow_typeColumns {t : TypeLayout} (h : t.Printable) : IsRow (typeColumns t) := by
  refine ⟨?_, [_, _, _], t.align, rfl⟩
  intro s hs
  simp only [typeColumns, List.mem_cons, List.not_mem_nil, or_false] at hs
  rcases hs with rfl | rfl | rfl | rfl
  · exact ⟨by decide, by decide⟩
  · exact h.path.isColumn
  · exact isColumn_toString _
  · exact isColumn_toString _

theorem isRow_fieldColumns {owner : TypePath} {f : FieldLayout} (howner : owner.IsDeclared)
    (h : f.Printable) : IsRow (fieldColumns owner f) := by
  refine ⟨?_, [_, _, _, _], f.offset, rfl⟩
  intro s hs
  simp only [fieldColumns, List.mem_cons, List.not_mem_nil, or_false] at hs
  rcases hs with rfl | rfl | rfl | rfl | rfl
  · exact ⟨by decide, by decide⟩
  · exact howner.isColumn
  · exact h.name
  · exact h.typeName
  · exact isColumn_toString _

theorem isRow_columnsOf {t : TypeLayout} (h : t.Printable) : ∀ ss ∈ columnsOf t, IsRow ss := by
  intro ss hss
  rcases List.mem_cons.1 hss with rfl | hss
  · exact isRow_typeColumns h
  · obtain ⟨f, hf, rfl⟩ := List.mem_map.1 hss
    exact isRow_fieldColumns h.path (h.fields f hf)

namespace IsRow

variable {ss : List String}

/-- The line ends in a digit. -/
theorem getLast? (h : IsRow ss) :
    ∃ c, ("\t".intercalate ss).toList.getLast? = some c ∧ c.isDigit = true := by
  obtain ⟨init, n, rfl⟩ := h.number
  rw [getLast?_intercalate (toList_toString_ne_nil n)]
  obtain ⟨c, hc⟩ := Option.isSome_iff_exists.1 (List.getLast?_isSome.2 (toList_toString_ne_nil n))
  exact ⟨c, hc, isDigit_of_mem_toString (List.mem_of_getLast? hc)⟩

theorem isLine (h : IsRow ss) : IsLine ("\t".intercalate ss) := by
  refine ⟨not_mem_intercalate (by decide) fun s hs => (h.columns s hs).2, ?_⟩
  obtain ⟨c, hc, hdigit⟩ := h.getLast?
  rw [hc]
  rintro ⟨⟩
  exact absurd hdigit (by decide)

theorem ne_empty (h : IsRow ss) : "\t".intercalate ss ≠ "" := by
  obtain ⟨c, hc, -⟩ := h.getLast?
  intro he
  rw [he] at hc
  cases hc

theorem columns_eq (h : IsRow ss) : Text.columns '\t' ("\t".intercalate ss) = ss := by
  refine columns_intercalate rfl ?_ fun s hs => (h.columns s hs).1
  obtain ⟨init, n, rfl⟩ := h.number
  simp

end IsRow

/-- The lines of a text that describes types are the rows that it was written for. -/
theorem lines_render {ts : List TypeLayout} (h : ∀ t ∈ ts, t.Printable) :
    (Text.lines (render ts)).filter (· ≠ "") = (ts.flatMap columnsOf).map ("\t".intercalate ·) := by
  have hrows : ∀ ss ∈ ts.flatMap columnsOf, IsRow ss := by
    intro ss hss
    obtain ⟨t, ht, hss⟩ := List.mem_flatMap.1 hss
    exact isRow_columnsOf (h t ht) ss hss
  rw [render_eq, lines_join, List.filter_eq_self]
  · intro s hs
    obtain ⟨ss, hss, rfl⟩ := List.mem_map.1 hs
    simpa using (hrows ss hss).ne_empty
  · intro s hs
    obtain ⟨ss, hss, rfl⟩ := List.mem_map.1 hs
    exact (hrows ss hss).isLine

/-! ## Reading -/

theorem readLine_type {t : TypeLayout} (h : t.Printable) (latest : List TypeLayout) :
    readLine latest ("\t".intercalate (typeColumns t)) =
      .ok (⟨t.path, t.size, t.align, []⟩ :: latest) := by
  have hentry : entry? ("\t".intercalate (typeColumns t)) = some (.type t.path t.size t.align) := by
    rw [ entry?, (isRow_typeColumns h).columns_eq]
    simp only [typeColumns, TypePath.parse_display h.path, number?_toString h.size,
      number?_toString h.align]
    rfl
  rw [readLine, hentry]

/-- The line of a field adds it to the latest type. -/
theorem readLine_field {t : TypeLayout} {f : FieldLayout} (ht : t.path.IsDeclared)
    (hf : f.Printable) (latest : List TypeLayout) :
    readLine (t :: latest) ("\t".intercalate (fieldColumns t.path f)) =
      .ok ({ t with fields := t.fields ++ [f] } :: latest) := by
  have hentry : entry? ("\t".intercalate (fieldColumns t.path f)) = some (.field t.path f) := by
    rw [ entry?, (isRow_fieldColumns ht hf).columns_eq]
    simp only [fieldColumns, TypePath.parse_display ht, number?_toString hf.offset]
    rfl
  rw [readLine, hentry]
  simp [attach]

theorem foldlM_fields {t : TypeLayout} {fs : List FieldLayout} (ht : t.path.IsDeclared)
    (hfs : ∀ f ∈ fs, f.Printable) (latest : List TypeLayout) :
    ((fs.map (fieldColumns t.path)).map ("\t".intercalate ·)).foldlM readLine (t :: latest) =
      .ok ({ t with fields := t.fields ++ fs } :: latest) := by
  induction fs generalizing t with
  | nil => simp [pure, Except.pure]
  | cons f fs ih =>
    have hrest := @ih { t with fields := t.fields ++ [f] } ht fun g hg =>
      hfs g (List.mem_cons_of_mem _ hg)
    rw [List.map_cons, List.map_cons, List.foldlM_cons,
      readLine_field ht (hfs f List.mem_cons_self)]
    simpa [bind, Except.bind] using hrest

theorem foldlM_types {ts : List TypeLayout} (h : ∀ t ∈ ts, t.Printable) (latest : List TypeLayout) :
    ((ts.flatMap columnsOf).map ("\t".intercalate ·)).foldlM readLine latest =
      .ok (ts.reverse ++ latest) := by
  induction ts generalizing latest with
  | nil => rfl
  | cons t ts ih =>
    have ht := h t List.mem_cons_self
    have hrest := ih (fun u hu => h u (List.mem_cons_of_mem _ hu)) (t :: latest)
    have hfields := @foldlM_fields ⟨t.path, t.size, t.align, []⟩ t.fields ht.path ht.fields latest
    rw [List.flatMap_cons, List.map_append, List.foldlM_append, columnsOf, List.map_cons,
      List.foldlM_cons, readLine_type ht]
    simp only [bind, Except.bind] at hrest ⊢
    rw [hfields]
    simpa using hrest

/-- **The text that describes types** is read as those types. -/
theorem read_render {ts : List TypeLayout} (h : ∀ t ∈ ts, t.Printable) : read (render ts) = .ok ts := by
  rw [read, lines_render h, foldlM_types h]
  simp [Except.map]

end Descriptor

end TypeFoundry
