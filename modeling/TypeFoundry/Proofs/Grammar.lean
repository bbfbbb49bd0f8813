import TypeFoundry.Proofs.Descriptors
import Mathlib.Data.List.Induction
import Mathlib.Data.List.TakeWhile

/-!
# The grammar of descriptors

`Means` is what one line of a descriptor can be, in columns and decimal numbers, and `Reads` adds
what the lines before it decide: that a field has a type to belong to. A text is read exactly if its
rows are entries in this sense, and a text that is not read is refused for the first row that is none
(`read_iff_grammar`).

The reader keeps the latest type in front and searches from there. Against this stands `distribute`,
which knows no search: a type has the fields of its own full name that stand between it and the
next type of that full name. That the two agree is an induction from the end of the rows, since
a further row is attached to what all rows before it came to (`readLine_ok_iff`).
-/

set_option autoImplicit false

namespace TypeFoundry

/-! ## Numbers -/

namespace Text

/-- The digits are those of the number, which fits into a word. -/
structure AreDigits (ds : List Char) (n : Nat) : Prop where
  nonempty : ds ≠ []
  digits : ∀ d ∈ ds, d.isDigit = true
  value : digitsValue ds = n
  fits : n < wordBound

/-- The text is digits of the number, perhaps behind a plus sign. -/
def Denotes (s : String) (n : Nat) : Prop :=
  ∃ ds, (s.toList = ds ∨ s.toList = '+' :: ds) ∧ AreDigits ds n

theorem digits?_eq_some_iff {ds : List Char} {n : Nat} : digits? ds = some n ↔ AreDigits ds n := by
  have hif : digits? ds = some n ↔
      (ds ≠ [] ∧ (∀ d ∈ ds, d.isDigit = true) ∧ digitsValue ds < wordBound) ∧ digitsValue ds = n := by
    simp [digits?, and_assoc]
  rw [hif]
  constructor
  · rintro ⟨⟨hne, hall, hlt⟩, rfl⟩
    exact ⟨hne, hall, rfl, hlt⟩
  · rintro ⟨hne, hall, rfl, hlt⟩
    exact ⟨⟨hne, hall, hlt⟩, rfl⟩

/-- **The numbers that are read** are those that the text denotes. -/
theorem number?_eq_some_iff {s : String} {n : Nat} : number? s = some n ↔ Denotes s n := by
  unfold number? Denotes
  split
  · rename_i ds hs
    rw [digits?_eq_some_iff, hs]
    constructor
    · exact fun h => ⟨ds, .inr rfl, h⟩
    · rintro ⟨ds', hds | hds, h⟩
      · -- the sign is no digit
        subst hds
        exact absurd (h.digits '+' List.mem_cons_self) (by decide)
      · obtain rfl := (List.cons.inj hds).2
        exact h
  · rename_i hs
    rw [digits?_eq_some_iff]
    constructor
    · exact fun h => ⟨s.toList, .inl rfl, h⟩
    · rintro ⟨ds, hds | hds, h⟩
      · rw [hds]
        exact h
      · exact absurd hds (hs ds)

end Text

open Text

theorem bind_eq_ok_iff {ε α β : Type} {x : Except ε α} {f : α → Except ε β} {b : β} :
    x >>= f = .ok b ↔ ∃ a, x = .ok a ∧ f a = .ok b := by
  cases x <;> simp [bind, Except.bind]

theorem bind_eq_error_iff {ε α β : Type} {x : Except ε α} {f : α → Except ε β} {e : ε} :
    x >>= f = .error e ↔ x = .error e ∨ ∃ a, x = .ok a ∧ f a = .error e := by
  cases x <;> simp [bind, Except.bind]

namespace Descriptor

/-! ## Lines -/

/-- The line is the columns with tabs between them. -/
def HasColumns (line : String) (columns : List String) : Prop :=
  "\t".intercalate columns = line ∧ ∀ c ∈ columns, '\t' ∉ c.toList

/-- What a line says; columns behind the last number are passed over. -/
inductive Means : String → Entry → Prop where
  | type {line owner size align : String} {rest : List String} {path : TypePath} {m n : Nat} :
    HasColumns line ("type" :: owner :: size :: align :: rest) → TypePath.parse owner = some path →
    Denotes size m → Denotes align n → Means line (.type path m n)
  | field {line owner name typeName offset : String} {rest : List String} {path : TypePath} {n : Nat} :
    HasColumns line ("field" :: owner :: name :: typeName :: offset :: rest) →
    TypePath.parse owner = some path → Denotes offset n → Means line (.field path ⟨name, typeName, n⟩)

theorem hasColumns_iff {line : String} {columns : List String} (h : columns ≠ []) :
    HasColumns line columns ↔ Text.columns '\t' line = columns :=
  (columns_eq_iff rfl h).symm

/-- **The entry of a line** is what the line says. -/
theorem entry?_eq_some_iff {line : String} {e : Entry} : entry? line = some e ↔ Means line e := by
  constructor
  · intro h
    unfold entry? at h
    split at h
    · rename_i tag owner columns hcolumns
      obtain ⟨path, hpath, h⟩ := Option.bind_eq_some_iff.1 h
      split at h
      · obtain ⟨m, hm, h⟩ := Option.bind_eq_some_iff.1 h
        obtain ⟨n, hn, h⟩ := Option.bind_eq_some_iff.1 h
        obtain rfl := Option.some.inj h
        exact .type ((hasColumns_iff (by simp)).2 hcolumns) hpath (number?_eq_some_iff.1 hm)
          (number?_eq_some_iff.1 hn)
      · obtain ⟨n, hn, h⟩ := Option.bind_eq_some_iff.1 h
        obtain rfl := Option.some.inj h
        exact .field ((hasColumns_iff (by simp)).2 hcolumns) hpath (number?_eq_some_iff.1 hn)
      · cases h
    · cases h
  · rintro (⟨hcolumns, hpath, hm, hn⟩ | ⟨hcolumns, hpath, hn⟩)
    · simp [ entry?, (hasColumns_iff (by simp)).1 hcolumns, hpath, number?_eq_some_iff.2 hm,
        number?_eq_some_iff.2 hn]
    · simp [ entry?, (hasColumns_iff (by simp)).1 hcolumns, hpath, number?_eq_some_iff.2 hn]

theorem entry?_eq_none_iff {line : String} : entry? line = none ↔ ∀ e, ¬ Means line e := by
  simp only [Option.eq_none_iff_forall_ne_some, ne_eq, entry?_eq_some_iff]

/-! ## Types and their fields -/

/-- The entry is a type of the full name. -/
def Entry.declares (path : TypePath) : Entry → Bool
  | .type p _ _ => p = path
  | .field _ _ => false

/-- The field of a type of the full name that the entry is. -/
def Entry.fieldOf? (path : TypePath) : Entry → Option FieldLayout
  | .type _ _ _ => none
  | .field owner f => if owner = path then some f else none

/-- The field that the entry is. -/
def Entry.field? : Entry → Option FieldLayout
  | .type _ _ _ => none
  | .field _ f => some f

def Entry.isType : Entry → Bool
  | .type _ _ _ => true
  | .field _ _ => false

/-- One of the entries is a type of the full name. -/
def Declared (es : List Entry) (path : TypePath) : Prop := ∃ e ∈ es, e.declares path = true

/-- The fields of the full name up to the next type of that full name. -/
def ownFields (path : TypePath) (es : List Entry) : List FieldLayout :=
  (es.takeWhile (!·.declares path)).filterMap (·.fieldOf? path)

/-- The types among the entries; a field goes to the nearest type before it that has its full name. -/
def distribute : List Entry → List TypeLayout
  | [] => []
  | .type path size align :: es => ⟨path, size, align, ownFields path es⟩ :: distribute es
  | .field _ _ :: es => distribute es

section

variable {es : List Entry} {path owner : TypePath} {f : FieldLayout} {size align : Nat}

theorem declared_cons_type {p : TypePath} :
    Declared (.type p size align :: es) path ↔ p = path ∨ Declared es path := by
  simp [Declared, Entry.declares]

theorem declared_cons_field : Declared (.field owner f :: es) path ↔ Declared es path := by
  simp [Declared, Entry.declares]

@[simp] theorem ownFields_type {p : TypePath} : ownFields path [.type p size align] = [] := by
  simp only [ownFields, List.takeWhile_cons]
  split <;> rfl

@[simp] theorem ownFields_field :
    ownFields path [.field owner f] = if owner = path then [f] else [] := by
  by_cases h : owner = path <;> simp [ownFields, Entry.declares, Entry.fieldOf?, h]

/-- One more entry counts if no type has had the full name. -/
theorem ownFields_concat_of_not (h : ¬ Declared es path) (e : Entry) :
    ownFields path (es ++ [e]) = ownFields path es ++ ownFields path [e] := by
  have hall : ∀ e ∈ es, (!e.declares path) = true := by simpa [Declared] using h
  have hes : es.takeWhile (!·.declares path) = es := List.takeWhile_eq_self_iff.2 hall
  simp only [ownFields, List.takeWhile_append_of_pos hall, List.filterMap_append, hes]

/-- No further entry counts if a type has had the full name. -/
theorem ownFields_concat_of_declared (h : Declared es path) (e : Entry) :
    ownFields path (es ++ [e]) = ownFields path es := by
  have hstop : (es.takeWhile (!·.declares path)).length ≠ es.length := by
    obtain ⟨d, hmem, hd⟩ := h
    intro hlength
    have hself : es.takeWhile (!·.declares path) = es :=
      (List.takeWhile_prefix _).eq_of_length hlength
    have hnot := List.takeWhile_eq_self_iff.1 hself d hmem
    rw [hd] at hnot
    cases hnot
  rw [ownFields, List.takeWhile_append, if_neg hstop, ownFields]

theorem ownFields_concat_of_nil {e : Entry} (h : ownFields path [e] = []) (es : List Entry) :
    ownFields path (es ++ [e]) = ownFields path es := by
  by_cases hd : Declared es path
  · exact ownFields_concat_of_declared hd e
  · rw [ownFields_concat_of_not hd, h, List.append_nil]

/-- A further type stands behind the others. -/
theorem distribute_concat_type (es : List Entry) :
    distribute (es ++ [.type path size align]) = distribute es ++ [⟨path, size, align, []⟩] := by
  induction es with
  | nil => rfl
  | cons e es ih =>
    cases e with
    | type p => simp [distribute, ih, ownFields_concat_of_nil]
    | field => simpa [distribute] using ih

/-- A further field of a full name that no type has goes nowhere. -/
theorem distribute_concat_undeclared (h : ¬ Declared es owner) :
    distribute (es ++ [.field owner f]) = distribute es := by
  induction es with
  | nil => rfl
  | cons e es ih =>
    cases e with
    | type p =>
      rw [declared_cons_type, not_or] at h
      simp [distribute, ih h.2, ownFields_concat_of_nil, Ne.symm h.1]
    | field =>
      rw [declared_cons_field] at h
      simpa [distribute] using ih h

theorem attach_append (xs ys : List TypeLayout) :
    attach owner f (xs ++ ys) =
      ((attach owner f xs).map (· ++ ys)).or ((attach owner f ys).map (xs ++ ·)) := by
  induction xs with
  | nil => simp [attach]
  | cons t xs ih =>
    by_cases ht : t.path = owner
    · simp [attach, ht]
    · cases hxs : attach owner f xs <;> simp [attach, ht, ih, hxs, Function.comp_def]

/-- A field of a full name that no type has cannot be attached. -/
theorem attach_undeclared (h : ¬ Declared es owner) :
    attach owner f (distribute es).reverse = none := by
  induction es with
  | nil => rfl
  | cons e es ih =>
    cases e with
    | type p =>
      rw [declared_cons_type, not_or] at h
      simp [distribute, attach_append, ih h.2, attach, h.1]
    | field =>
      rw [declared_cons_field] at h
      exact ih h

/-- **A field is attached** to the nearest type before it that has its full name. -/
theorem attach_declared (h : Declared es owner) :
    attach owner f (distribute es).reverse = some (distribute (es ++ [.field owner f])).reverse := by
  induction es with
  | nil => simp [Declared] at h
  | cons e es ih =>
    cases e with
    | type p =>
      by_cases hes : Declared es owner
      · -- a later type has the full name, so this one keeps its fields
        have hown : ownFields p (es ++ [.field owner f]) = ownFields p es := by
          by_cases hp : owner = p
          · exact ownFields_concat_of_declared (hp ▸ hes) _
          · exact ownFields_concat_of_nil (by simp [hp]) es
        simp [distribute, attach_append, ih hes, hown]
      · obtain rfl := (declared_cons_type.1 h).resolve_right hes
        simp [distribute, attach_append, attach_undeclared hes, attach,
          distribute_concat_undeclared hes, ownFields_concat_of_not hes]
    | field =>
      rw [declared_cons_field] at h
      exact ih h

end

/-! ## Rows -/

/-- What the entries before one decide: a field needs a type of its full name. -/
def Entry.Fits (before : List Entry) : Entry → Prop
  | .type _ _ _ => True
  | .field owner _ => Declared before owner

/-- Each field stands behind a type of its full name. -/
def Owned (es : List Entry) : Prop := ∀ before e after, es = before ++ e :: after → e.Fits before

/-- The rows say the entries, and each field can be given to a type. -/
structure Reads (rows : List String) (es : List Entry) : Prop where
  means : List.Forall₂ Means rows es
  owned : Owned es

/-- What is wrong with a row behind the entries. -/
inductive Offends (before : List Entry) (row : String) : DescriptorFault → Prop where
  | badLine : (∀ e, ¬ Means row e) → Offends before row (.badLine row)
  | undeclared {owner : TypePath} {f : FieldLayout} : Means row (.field owner f) →
    ¬ Declared before owner → Offends before row (.undeclared owner)

/-- The first row that is no entry has the fault. -/
def FirstFault (rows : List String) (fault : DescriptorFault) : Prop :=
  ∃ before row after es, rows = before ++ row :: after ∧ Reads before es ∧ Offends es row fault

section

variable {rows : List String} {row : String} {es : List Entry} {latest : List TypeLayout}
  {fault : DescriptorFault}

/-- **One more row** that fits is read into what the entries come to with it. -/
theorem readLine_ok_iff : readLine (distribute es).reverse row = .ok latest ↔
    ∃ e, Means row e ∧ e.Fits es ∧ latest = (distribute (es ++ [e])).reverse := by
  have hread : (∃ e, Means row e ∧ e.Fits es ∧ latest = (distribute (es ++ [e])).reverse) ↔
      ∃ e, entry? row = some e ∧ e.Fits es ∧ latest = (distribute (es ++ [e])).reverse := by
    simp only [entry?_eq_some_iff]
  rw [hread, readLine]
  cases entry? row with
  | none => simp
  | some e =>
    cases e with
    | type path size align => simp [Entry.Fits, distribute_concat_type, eq_comm]
    | field owner f =>
      by_cases h : Declared es owner
      · simp [Entry.Fits, attach_declared h, h, eq_comm]
      · simp [Entry.Fits, attach_undeclared h, h]

theorem readLine_error_iff :
    readLine (distribute es).reverse row = .error fault ↔ Offends es row fault := by
  constructor
  · intro h
    unfold readLine at h
    split at h
    · rename_i hentry
      obtain rfl := Except.error.inj h
      exact .badLine (entry?_eq_none_iff.1 hentry)
    · cases h
    · rename_i owner f hentry
      by_cases hd : Declared es owner
      · rw [attach_declared hd] at h
        cases h
      · rw [attach_undeclared hd] at h
        obtain rfl := Except.error.inj h
        exact .undeclared (entry?_eq_some_iff.1 hentry) hd
  · rintro (hnone | ⟨hmeans, hd⟩)
    · rw [readLine, entry?_eq_none_iff.2 hnone]
    · simp [readLine, entry?_eq_some_iff.2 hmeans, attach_undeclared hd]

/-- What one of the entries can be if one more is put behind the others. -/
theorem concat_eq_iff {α : Type} {xs before after : List α} {x y : α} :
    xs ++ [x] = before ++ y :: after ↔
      (before = xs ∧ y = x ∧ after = []) ∨ ∃ rest, after = rest ++ [x] ∧ xs = before ++ y :: rest := by
  constructor
  · intro h
    rcases List.eq_nil_or_concat' after with rfl | ⟨rest, last, rfl⟩
    · obtain ⟨rfl, hlast⟩ := List.append_inj' h rfl
      exact .inl ⟨rfl, (List.singleton_inj.1 hlast).symm, rfl⟩
    · rw [← List.cons_append, ← List.append_assoc] at h
      obtain ⟨rfl, hlast⟩ := List.append_inj' h rfl
      exact .inr ⟨rest, by rw [List.singleton_inj.1 hlast], rfl⟩
  · rintro (⟨rfl, rfl, rfl⟩ | ⟨rest, rfl, rfl⟩)
    · rfl
    · simp

theorem owned_concat {e : Entry} : Owned (es ++ [e]) ↔ Owned es ∧ e.Fits es := by
  constructor
  · intro h
    refine ⟨fun before e' after hes => ?_, h es e [] rfl⟩
    exact h before e' (after ++ [e]) (concat_eq_iff.2 (.inr ⟨after, rfl, hes⟩))
  · rintro ⟨hes, he⟩ before e' after heq
    rcases concat_eq_iff.1 heq with ⟨rfl, rfl, -⟩ | ⟨rest, -, hrest⟩
    · exact he
    · exact hes before e' rest hrest

theorem reads_concat : Reads (rows ++ [row]) es ↔
    ∃ before e, es = before ++ [e] ∧ Reads rows before ∧ Means row e ∧ e.Fits before := by
  constructor
  · rintro ⟨hmeans, howned⟩
    rw [← List.forall₂_reverse_iff, List.reverse_append, List.reverse_singleton,
      List.singleton_append, List.forall₂_cons_left_iff] at hmeans
    obtain ⟨e, before, hrow, hrows, hes⟩ := hmeans
    obtain rfl : es = before.reverse ++ [e] := by simpa using congrArg List.reverse hes
    obtain ⟨hbefore, he⟩ := owned_concat.1 howned
    have hrows : List.Forall₂ Means rows before.reverse := by
      simpa using List.forall₂_reverse_iff.2 hrows
    exact ⟨before.reverse, e, rfl, ⟨hrows, hbefore⟩, hrow, he⟩
  · rintro ⟨before, e, rfl, ⟨hrows, hbefore⟩, hrow, he⟩
    exact ⟨List.rel_append hrows (.cons hrow .nil), owned_concat.2 ⟨hbefore, he⟩⟩

theorem firstFault_concat : FirstFault (rows ++ [row]) fault ↔
    FirstFault rows fault ∨ ∃ es, Reads rows es ∧ Offends es row fault := by
  constructor
  · rintro ⟨before, row', after, es, hrows, hreads, hoffends⟩
    rcases concat_eq_iff.1 hrows with ⟨rfl, rfl, -⟩ | ⟨rest, -, hrest⟩
    · exact .inr ⟨es, hreads, hoffends⟩
    · exact .inl ⟨before, row', rest, es, hrest, hreads, hoffends⟩
  · rintro (⟨before, row', after, es, hrows, hreads, hoffends⟩ | ⟨es, hreads, hoffends⟩)
    · exact ⟨before, row', _, es, concat_eq_iff.2 (.inr ⟨after, rfl, hrows⟩), hreads, hoffends⟩
    · exact ⟨rows, row, [], es, rfl, hreads, hoffends⟩

end

/-- **The run over the rows** ends in what their entries come to, or in the fault of the first row that
is no entry. -/
theorem foldlM_readLine (rows : List String) :
    (∀ latest, rows.foldlM readLine [] = .ok latest ↔
      ∃ es, Reads rows es ∧ latest = (distribute es).reverse) ∧
    ∀ fault, rows.foldlM readLine [] = .error fault ↔ FirstFault rows fault := by
  induction rows using List.reverseRecOn with
  | nil =>
    refine ⟨fun latest => ?_, fun fault => ?_⟩
    · constructor
      · rintro ⟨⟩
        exact ⟨[], ⟨.nil, by simp [Owned]⟩, rfl⟩
      · rintro ⟨es, ⟨hmeans, -⟩, rfl⟩
        rw [List.forall₂_nil_left_iff.1 hmeans]
        rfl
    · simp [FirstFault, pure, Except.pure]
  | append_singleton rows row ih =>
    obtain ⟨hok, herror⟩ := ih
    simp only [List.foldlM_append, List.foldlM_cons, List.foldlM_nil, bind_pure]
    refine ⟨fun latest => ?_, fun fault => ?_⟩
    · rw [bind_eq_ok_iff]
      constructor
      · rintro ⟨read, hread, hlast⟩
        obtain ⟨es, hes, rfl⟩ := (hok read).1 hread
        obtain ⟨e, hmeans, hfits, rfl⟩ := readLine_ok_iff.1 hlast
        exact ⟨es ++ [e], reads_concat.2 ⟨es, e, rfl, hes, hmeans, hfits⟩, rfl⟩
      · rintro ⟨es', hes', rfl⟩
        obtain ⟨es, e, rfl, hes, hmeans, hfits⟩ := reads_concat.1 hes'
        exact ⟨_, (hok _).2 ⟨es, hes, rfl⟩, readLine_ok_iff.2 ⟨e, hmeans, hfits, rfl⟩⟩
    · rw [bind_eq_error_iff, firstFault_concat, herror]
      refine or_congr_right ⟨?_, ?_⟩
      · rintro ⟨read, hread, hlast⟩
        obtain ⟨es, hes, rfl⟩ := (hok read).1 hread
        exact ⟨es, hes, readLine_error_iff.1 hlast⟩
      · rintro ⟨es, hes, hoffends⟩
        exact ⟨_, (hok _).2 ⟨es, hes, rfl⟩, readLine_error_iff.2 hoffends⟩

/-! ## The types of a text -/

/-- The line of a type, as an entry. -/
def entryOf (t : TypeLayout) : Entry := .type t.path t.size t.align

/-- The types are the lines of types, in order. -/
theorem map_entryOf_distribute (es : List Entry) :
    (distribute es).map entryOf = es.filter Entry.isType := by
  induction es with
  | nil => rfl
  | cons e es ih => cases e <;> simp [distribute, List.filter_cons, Entry.isType, entryOf, ih]

theorem flatMap_attach {owner : TypePath} {f : FieldLayout} {ts ts' : List TypeLayout}
    (h : attach owner f ts = some ts') :
    (ts'.flatMap (·.fields)).Perm (f :: ts.flatMap (·.fields)) := by
  induction ts generalizing ts' with
  | nil => cases h
  | cons t ts ih =>
    rw [attach] at h
    split at h
    · obtain rfl := Option.some.inj h
      simp
    · obtain ⟨rest, hrest, rfl⟩ := Option.map_eq_some_iff.1 h
      simp only [List.flatMap_cons]
      exact ((ih hrest).append_left t.fields).trans List.perm_middle

/-- No field is lost and none is given twice. -/
theorem flatMap_distribute {es : List Entry} (h : Owned es) :
    ((distribute es).flatMap (·.fields)).Perm (es.filterMap Entry.field?) := by
  induction es using List.reverseRecOn with
  | nil => rfl
  | append_singleton es e ih =>
    obtain ⟨hes, he⟩ := owned_concat.1 h
    have ih := ih hes
    cases e with
    | type path size align =>
      have hnone : [Entry.type path size align].filterMap Entry.field? = [] := rfl
      simpa [distribute_concat_type, List.filterMap_append, hnone] using ih
    | field owner f =>
      have hreverse : ∀ ts : List TypeLayout,
          (ts.reverse.flatMap (·.fields)).Perm (ts.flatMap (·.fields)) :=
        fun ts => ts.reverse_perm.flatMap_right _
      have hattach := flatMap_attach (attach_declared (f := f) he)
      have hbehind : (f :: es.filterMap Entry.field?).Perm
          ((es ++ [Entry.field owner f]).filterMap Entry.field?) := by
        rw [List.filterMap_append]
        exact (List.perm_append_singleton f _).symm
      exact (hreverse _).symm.trans
        (hattach.trans ((((hreverse _).trans ih).cons f).trans hbehind))

/-- The lines of the text that count. -/
def rows (text : String) : List String := (Text.lines text).filter (· ≠ "")

/-- **A descriptor is read** exactly if its rows are entries of the grammar, and otherwise it is refused
for the first row that is none. The types are the lines of types, in order; each has the fields
behind it of its full name, up to the next type of that full name; and no field is lost. -/
theorem read_iff_grammar (text : String) :
    (∀ types, read text = .ok types ↔ ∃ es, Reads (rows text) es ∧ types = distribute es) ∧
    (∀ fault, read text = .error fault ↔ FirstFault (rows text) fault) ∧
    ∀ es, Reads (rows text) es →
      (distribute es).map entryOf = es.filter Entry.isType ∧
      ((distribute es).flatMap (·.fields)).Perm (es.filterMap Entry.field?) ∧
      ((distribute es).flatMap (·.fields)).length = es.countP (·.field?.isSome) := by
  obtain ⟨hok, herror⟩ := foldlM_readLine (rows text)
  have hread : read text = ((rows text).foldlM readLine []).map List.reverse := rfl
  refine ⟨fun types => ?_, fun fault => ?_, fun es hes => ?_⟩
  · have hreverse : read text = .ok types ↔ (rows text).foldlM readLine [] = .ok types.reverse := by
      rw [hread]
      cases (rows text).foldlM readLine [] <;> simp [Except.map, List.reverse_eq_iff]
    rw [hreverse, hok]
    simp only [List.reverse_inj]
  · have hsame : read text = .error fault ↔ (rows text).foldlM readLine [] = .error fault := by
      rw [hread]
      cases (rows text).foldlM readLine [] <;> simp [Except.map]
    rw [hsame, herror]
  · have hfields := flatMap_distribute hes.owned
    exact ⟨map_entryOf_distribute es, hfields, by rw [hfields.length_eq, List.length_filterMap_eq_countP]⟩

-- the later of two types of one full name has the field, however its owner is spelled
example : read "type\ta::T\t8\t8\ntype\ta::T\t4\t+4\nfield\tcrate::a::T\tid\tu64\t0\tmore" =
    .ok [⟨⟨["a"], "T"⟩, 8, 8, []⟩, ⟨⟨["a"], "T"⟩, 4, 4, [⟨"id", "u64", 0⟩]⟩] := by
  decide +kernel

end Descriptor

end TypeFoundry
