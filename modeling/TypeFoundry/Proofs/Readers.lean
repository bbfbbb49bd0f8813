import TypeFoundry.Source.Item.Read

/-!
# Running readers

What the small readers do on given tokens, as equations: a phrase in sequence (`run_bind`), words,
operators and groups. Readers of whole phrases are run by rewriting with them.
-/

set_option autoImplicit false

namespace TypeFoundry.Source.Reader

variable {α β : Type}

@[simp] theorem run_pure (a : α) (ts : Tokens) : (pure a : Reader α) ts = .ok (a, ts) := rfl

@[simp] theorem run_bind (r : Reader α) (f : α → Reader β) (ts : Tokens) :
    (r >>= f) ts = match r ts with
      | .ok (a, ts') => f a ts'
      | .error e => .error e := by
  change Except.bind (r ts) _ = _
  cases r ts <;> rfl

@[simp] theorem run_map (f : α → β) (r : Reader α) (ts : Tokens) :
    (f <$> r) ts = match r ts with
      | .ok (a, ts') => .ok (f a, ts')
      | .error e => .error e := by
  change Except.bind (r ts) _ = _
  cases r ts <;> rfl

@[simp] theorem run_seqRight (r : Reader α) (s : Reader β) (ts : Tokens) :
    (r *> s) ts = match r ts with
      | .ok (_, ts') => s ts'
      | .error e => .error e := by
  rw [← run_bind r (fun _ => s)]
  rfl

@[simp] theorem run_ite (c : Prop) [Decidable c] (r s : Reader α) (ts : Tokens) :
    (if c then r else s) ts = if c then r ts else s ts := by
  split <;> rfl

@[simp] theorem run_rest (ts : Tokens) : rest ts = .ok (ts, ts) := rfl

@[simp] theorem run_sees (p : Tokens → Bool) (ts : Tokens) : sees p ts = .ok (p ts, ts) := rfl

@[simp] theorem run_isDone (ts : Tokens) : isDone ts = .ok (ts.isEmpty, ts) := rfl

@[simp] theorem run_set (ts ts' : Tokens) : (set ts : Reader Unit) ts' = .ok ((), ts) := rfl

/-! ## Looking at tokens -/

@[simp] theorem startsWord_word (w v : String) (ts : Tokens) :
    startsWord w (.word v :: ts) = (v == w) := rfl

@[simp] theorem startsWord_mark (w : String) (c : Char) (j : Bool) (ts : Tokens) :
    startsWord w (.mark c j :: ts) = false := rfl

@[simp] theorem startsWord_group (w : String) (d : Delimiter) (inner ts : Tokens) :
    startsWord w (.group d inner :: ts) = false := rfl

@[simp] theorem startsGroup_word (d : Delimiter) (w : String) (ts : Tokens) :
    startsGroup d (.word w :: ts) = false := rfl

@[simp] theorem startsGroup_mark (d : Delimiter) (c : Char) (j : Bool) (ts : Tokens) :
    startsGroup d (.mark c j :: ts) = false := rfl

@[simp] theorem startsGroup_group (d e : Delimiter) (inner ts : Tokens) :
    startsGroup d (.group e inner :: ts) = (d == e) := rfl

@[simp] theorem startsOp_nil (text : String) : startsOp text [] = false := by
  simp only [startsOp]
  rcases text.toList with _ | ⟨c, _ | ⟨d, cs⟩⟩ <;> rfl

@[simp] theorem startsOp_word (text w : String) (ts : Tokens) :
    startsOp text (.word w :: ts) = false := by
  simp only [startsOp]
  rcases text.toList with _ | ⟨c, _ | ⟨d, cs⟩⟩ <;> rfl

@[simp] theorem startsOp_literal (text w : String) (ts : Tokens) :
    startsOp text (.literal w :: ts) = false := by
  simp only [startsOp]
  rcases text.toList with _ | ⟨c, _ | ⟨d, cs⟩⟩ <;> rfl

@[simp] theorem startsOp_group (text : String) (d : Delimiter) (inner ts : Tokens) :
    startsOp text (.group d inner :: ts) = false := by
  simp only [startsOp]
  rcases text.toList with _ | ⟨c, _ | ⟨d, cs⟩⟩ <;> rfl

/-- No operator comes next that starts with another character than the mark. -/
theorem startsOp_mark {text : String} {c x : Char} {xs : List Char} (h : text.toList = x :: xs)
    (hx : x ≠ c) (j : Bool) (ts : Tokens) : startsOp text (.mark c j :: ts) = false := by
  rw [startsOp, h]
  cases xs <;> cases j <;> simp [afterMarks, hx]

/-! ## Taking tokens -/

theorem run_operator? (text : String) (ts : Tokens) :
    operator? text ts = match afterMarks text.toList ts with
      | some ts' => .ok (true, ts')
      | none => .ok (false, ts) := by
  simp only [operator?, run_bind, run_sees, startsOp]
  cases h : afterMarks text.toList ts with
  | none => simp
  | some ts' => simp [operator, h]

/-- An operator that does not come next is not taken. -/
theorem run_operator?_of_not {text : String} {ts : Tokens} (h : startsOp text ts = false) :
    operator? text ts = .ok (false, ts) := by
  rw [run_operator?]
  simp only [startsOp, Option.isSome_eq_false_iff, Option.isNone_iff_eq_none] at h
  rw [h]

@[simp] theorem run_keyword?_word (w v : String) (ts : Tokens) :
    keyword? w (.word v :: ts) = if v == w then .ok (true, ts) else .ok (false, .word v :: ts) := by
  simp only [keyword?, run_bind, run_sees, startsWord_word]
  by_cases h : v = w <;> simp [h, keyword]

@[simp] theorem run_keyword?_mark (w : String) (c : Char) (j : Bool) (ts : Tokens) :
    keyword? w (.mark c j :: ts) = .ok (false, .mark c j :: ts) := rfl

@[simp] theorem run_keyword?_group (w : String) (d : Delimiter) (inner ts : Tokens) :
    keyword? w (.group d inner :: ts) = .ok (false, .group d inner :: ts) := rfl

@[simp] theorem run_keyword (w : String) (ts : Tokens) : keyword w (.word w :: ts) = .ok ((), ts) := by
  simp [keyword]

theorem run_name {w : String} (h : isReserved w = false) (ts : Tokens) :
    name (.word w :: ts) = .ok (w, ts) := by
  simp [name, h]

theorem run_nameOr (words : List String) {w : String}
    (h : isReserved w = false ∨ w ∈ words) (ts : Tokens) :
    nameOr words (.word w :: ts) = .ok (w, ts) := by
  obtain h | h := h <;> simp [nameOr, h]

/-- A group all of whose tokens the reader takes. -/
theorem run_group {d : Delimiter} {r : Reader α} {inside : Tokens} {a : α}
    (h : r inside = .ok (a, [])) (ts : Tokens) : group d r (.group d inside :: ts) = .ok (a, ts) := by
  simp [group, h]

theorem run_manyWhile_stop {p : Tokens → Bool} (r : Reader α) {ts : Tokens} (h : p ts = false)
    (n : Nat) : manyWhile p r n ts = .ok ([], ts) := by
  cases n with
  | zero => rfl
  | succ n => simp [manyWhile, h]

theorem run_manyWhile_step {p : Tokens → Bool} {r : Reader α} {ts ts' ts'' : Tokens} {a : α}
    {as : List α} {n : Nat} (h : p ts = true) (hr : r ts = .ok (a, ts'))
    (hmore : manyWhile p r n ts' = .ok (as, ts'')) :
    manyWhile p r (n + 1) ts = .ok (a :: as, ts'') := by
  simp [manyWhile, h, hr, hmore]

end TypeFoundry.Source.Reader
