import Mathlib.Data.List.DropRight
import TypeFoundry.Json.Read
import TypeFoundry.Json.Write
import TypeFoundry.Text.Decimal

/-!
# JSON values read back

`Shows j cs` says which texts show the value `j`: strings are written as `Json.writtenText` writes them,
and blanks may stand in front of values and of names, and in front of a closing bracket. What shows a
value is read as that value and leaves what follows it (`Shows.readsAs`). Both layouts show the value, as
long as all its numbers are natural (`shows_written`, `shows_spread`); so each of them is read back
(`read?_compact`, `read?_pretty`).
-/

set_option autoImplicit false

namespace TypeFoundry.Json

open Text

/-! ## Strings -/

section

variable {a b c d e : Char} {n : Nat} {tail : List Char} {r : Option (List Char) × List Char}

theorem stringBody_plain (hquote : c ≠ '"') (hslash : c ≠ '\\') (hcontrol : ¬ c.toNat < 0x20)
    (h : stringBody tail = some r) : stringBody (c :: tail) = some (push c r) := by
  rw [stringBody, if_neg hcontrol, h]
  · rfl
  · exact hquote
  · rintro a b c d f g k l rest rfl
    exact absurd rfl hslash
  · rintro a b c d rest rfl
    exact absurd rfl hslash
  · rintro e rest rfl
    exact absurd rfl hslash

/-- No string has an escape with other characters in the place of the digits. -/
theorem stringBody_unit_none (hn : unit? a b c d = none) :
    stringBody ('\\' :: 'u' :: a :: b :: c :: d :: tail) = none := by
  by_cases hpair : ∃ e f g k rest, tail = '\\' :: 'u' :: e :: f :: g :: k :: rest
  · obtain ⟨e, f, g, k, rest, rfl⟩ := hpair
    rw [stringBody, hn]
    rfl
  · rw [stringBody, hn]
    · rfl
    · rintro e f g k rest rfl
      exact hpair ⟨e, f, g, k, rest, rfl⟩

/-- Four digits that do not stand for a half of a pair. -/
theorem stringBody_unit (hn : unit? a b c d = some n) (hhigh : isHighHalf n = false)
    (hlow : isLowHalf n = false) (h : stringBody tail = some r) :
    stringBody ('\\' :: 'u' :: a :: b :: c :: d :: tail) = some (push (.ofNat n) r) := by
  by_cases hpair : ∃ e f g k rest, tail = '\\' :: 'u' :: e :: f :: g :: k :: rest
  · -- the digits of the next escape are looked at as well, and they are digits since it has been read
    obtain ⟨e, f, g, k, rest, rfl⟩ := hpair
    cases hm : unit? e f g k with
    | none =>
      rw [stringBody_unit_none hm] at h
      cases h
    | some m =>
      rw [stringBody, hn, hm, h]
      simp [hhigh, hlow]
  · rw [stringBody, hn, h]
    · simp [hhigh, hlow]
    · rintro e f g k rest rfl
      exact hpair ⟨e, f, g, k, rest, rfl⟩

end

theorem hexValue?_hexDigit : ∀ d < 16, hexValue? (hexDigit d) = some d := by decide

/-- The digits of a number denote the number. -/
theorem unit?_hexDigits {n : Nat} (h : n < 65536) :
    ∃ a b c d, hexDigits 4 n = [a, b, c, d] ∧ unit? a b c d = some n := by
  refine ⟨_, _, _, _, rfl, ?_⟩
  simp only [unit?, hexValue?_hexDigit _ (Nat.mod_lt _ (by decide : 0 < 16)), Option.bind_eq_bind,
    Option.bind_some, Option.pure_def, Option.some.injEq]
  omega

/-- What a character is written as is read as that character. -/
theorem stringBody_escaped (c : Char) {tail : List Char} {r : Option (List Char) × List Char}
    (h : stringBody tail = some r) : stringBody (escaped c ++ tail) = some (push c r) := by
  unfold escaped
  split
  · exact stringBody_short rfl h
  · exact stringBody_short rfl h
  · exact stringBody_short rfl h
  · exact stringBody_short rfl h
  · exact stringBody_short rfl h
  · exact stringBody_short rfl h
  · exact stringBody_short rfl h
  · split
    · rename_i hcontrol
      obtain ⟨x, y, z, t, hdigits, hunit⟩ := unit?_hexDigits (n := c.toNat) (by omega)
      have hhalf : isHighHalf c.toNat = false ∧ isLowHalf c.toNat = false := by
        simp only [isHighHalf, isLowHalf, Bool.and_eq_false_iff, decide_eq_false_iff_not]
        omega
      have hread := stringBody_unit hunit hhalf.1 hhalf.2 h
      rw [Char.ofNat_toNat] at hread
      simpa [hdigits] using hread
    · exact stringBody_plain ‹_› ‹_› ‹_› h

/-- **A string** is read as its text, or as none if it has none. -/
theorem stringBody_writtenText (text : Option String) (rest : List Char) :
    ∃ body, writtenText text ++ rest = '"' :: body ∧
      (stringBody body).map textOf = some (text, rest) := by
  cases text with
  | none => exact ⟨_, rfl, by simp [stringBody, unit?, hexValue?, isHighHalf, textOf]⟩
  | some s =>
    have hbody : ∀ cs : List Char,
        stringBody (cs.flatMap escaped ++ '"' :: rest) = some (some cs, rest) := by
      intro cs
      induction cs with
      | nil => rw [List.flatMap_nil, List.nil_append, stringBody]
      | cons c cs ih => rw [List.flatMap_cons, List.append_assoc, stringBody_escaped c ih]; rfl
    refine ⟨s.toList.flatMap escaped ++ '"' :: rest, by simp [writtenText], ?_⟩
    rw [hbody, Option.map_some, textOf, Option.map_some, String.ofList_toList]

/-! ## Numbers -/

/-- The text does not go on with a number. -/
def EndsNumber (rest : List Char) : Prop :=
  ∀ c ∈ rest.head?, c.isDigit = false ∧ c ≠ '.' ∧ c ≠ 'e' ∧ c ≠ 'E'

/-- The digits of a number start with a digit, and only those of zero start with a zero. -/
theorem toDigits_eq_cons (n : Nat) :
    ∃ d ds, Nat.toDigits 10 n = d :: ds ∧ d.isDigit = true ∧ (d = '0' → n = 0) := by
  induction n using Nat.strongRecOn with
  | ind n ih =>
    by_cases hn : n < 10
    · have hall : ∀ m < 10, m.digitChar.isDigit = true ∧ (m.digitChar = '0' → m = 0) := by decide
      exact ⟨_, _, Nat.toDigits_of_lt_base hn, hall n hn⟩
    · obtain ⟨d, ds, hds, hdigit, hzero⟩ := ih (n / 10) (by omega)
      refine ⟨d, ds ++ [(n % 10).digitChar], ?_, hdigit, fun hd => ?_⟩
      · rw [Nat.toDigits_of_base_le (by decide) (by omega), hds, List.cons_append]
      · have := hzero hd
        omega

theorem digitRun?_append {ds rest : List Char} (hne : ds ≠ []) (hds : ∀ d ∈ ds, d.isDigit = true)
    (hrest : ∀ c ∈ rest.head?, c.isDigit = false) : digitRun? (ds ++ rest) = some (ds, rest) := by
  have htake : rest.takeWhile Char.isDigit = [] := by
    cases rest with
    | nil => rfl
    | cons c rest => simp [hrest c rfl]
  have hdrop : rest.dropWhile Char.isDigit = rest := by
    cases rest with
    | nil => rfl
    | cons c rest => simp [hrest c rfl]
  rw [digitRun?, List.takeWhile_append_of_pos hds, List.dropWhile_append_of_pos hds, htake, hdrop,
    List.append_nil]
  cases ds with
  | nil => exact absurd rfl hne
  | cons d ds => rfl

theorem wholePart?_toDigits (n : Nat) {rest : List Char} (hrest : ∀ c ∈ rest.head?, c.isDigit = false) :
    wholePart? (Nat.toDigits 10 n ++ rest) = some (Nat.toDigits 10 n, rest) := by
  by_cases hn : n = 0
  · subst hn
    have hany : rest.head?.any Char.isDigit = false := by
      cases rest with
      | nil => rfl
      | cons c rest => exact hrest c rfl
    show wholePart? ('0' :: rest) = some (['0'], rest)
    rw [wholePart?, hany]
    rfl
  · have hdigits : ∀ d ∈ Nat.toDigits 10 n, d.isDigit = true := fun d hd =>
      Nat.isDigit_of_mem_toDigits (by decide) (by decide) hd
    rw [wholePart?]
    · exact digitRun?_append Nat.toDigits_ne_nil hdigits hrest
    · intro tail htail
      obtain ⟨d, ds, hds, -, hzero⟩ := toDigits_eq_cons n
      rw [hds, List.cons_append, List.cons.injEq] at htail
      exact hn (hzero htail.1)

/-- **A natural number** in front of what does not go on with it. -/
theorem number?_toDigits (n : Nat) {rest : List Char} (hrest : EndsNumber rest) :
    number? (Nat.toDigits 10 n ++ rest) = some (.natural n, rest) := by
  have hfraction : fraction? rest = some ([], rest) := by
    rw [fraction?]
    rintro tail rfl
    exact (hrest '.' rfl).2.1 rfl
  have hexponent : exponent? rest = some ([], rest) := by
    cases rest with
    | nil => rfl
    | cons c rest =>
      obtain ⟨-, -, hsmall, hlarge⟩ := hrest c rfl
      simp [exponent?, hsmall, hlarge]
  have hvalue := digitsValue_toDigits n
  rw [digitsValue] at hvalue
  rw [number?]
  · simp only [wholePart?_toDigits n fun c hc => (hrest c hc).1, hfraction, hexponent,
      Option.bind_eq_bind, Option.bind_some, List.isEmpty_nil, Bool.and_self, if_true, hvalue]
    rfl
  · intro tail htail
    obtain ⟨d, ds, hds, hdigit, -⟩ := toDigits_eq_cons n
    rw [hds, List.cons_append, List.cons.injEq] at htail
    rw [htail.1] at hdigit
    cases hdigit

/-! ## Blanks -/

/-- Nothing but blanks. -/
def IsBlank (b : List Char) : Prop := ∀ c ∈ b, isSpace c = true

theorem skip_append {b : List Char} (hb : IsBlank b) (cs : List Char) : skip (b ++ cs) = skip cs :=
  List.dropWhile_append_of_pos hb

theorem skip_skip (cs : List Char) : skip (skip cs) = skip cs := List.dropWhile_idempotent _ cs

theorem endsNumber_of_isBlank {b rest : List Char} (hb : IsBlank b) (hrest : EndsNumber rest) :
    EndsNumber (b ++ rest) := by
  cases b with
  | nil => exact hrest
  | cons c b =>
    rintro d ⟨⟩
    have hspace : c = ' ' ∨ c = '\t' ∨ c = '\n' ∨ c = '\r' := by
      simpa [isSpace, or_assoc] using hb c List.mem_cons_self
    rcases hspace with rfl | rfl | rfl | rfl <;> decide

/-! ## Shown values -/

/-- A member of an object as it is shown: blanks, the name, and behind a colon the text of its value. -/
structure ShownMember where
  front : List Char
  name : Option String
  value : Json
  text : List Char

namespace ShownMember

/-- The member that is shown. -/
def member (m : ShownMember) : Option String × Json := (m.name, m.value)

/-- How it is shown. -/
def chars (m : ShownMember) : List Char := m.front ++ writtenText m.name ++ ':' :: m.text

end ShownMember

/-- The text shows the value. -/
inductive Shows : Json → List Char → Prop where
  | blank {c : Char} {j : Json} {cs : List Char} : isSpace c = true → Shows j cs → Shows j (c :: cs)
  | null : Shows .null ['n', 'u', 'l', 'l']
  | true : Shows (.bool true) ['t', 'r', 'u', 'e']
  | false : Shows (.bool false) ['f', 'a', 'l', 's', 'e']
  | natural (n : Nat) : Shows (.natural n) (Nat.toDigits 10 n)
  | string (text : Option String) : Shows (.string text) (writtenText text)
  | array {parts : List (Json × List Char)} {b : List Char} : (∀ p ∈ parts, Shows p.1 p.2) →
    IsBlank b →
    Shows (.array (parts.map (·.1))) ('[' :: [','].intercalate (parts.map (·.2)) ++ b ++ [']'])
  | object {ms : List ShownMember} {b : List Char} : (∀ m ∈ ms, Shows m.value m.text) →
    (∀ m ∈ ms, IsBlank m.front) → IsBlank b →
    Shows (.object (ms.map (·.member))) ('{' :: [','].intercalate (ms.map (·.chars)) ++ b ++ ['}'])

/-- The text is read as the value, whatever follows that does not go on with a number. -/
def ReadsAs (j : Json) (cs : List Char) : Prop :=
  ∀ fuel rest, cs.length < fuel → EndsNumber rest → value? fuel (cs ++ rest) = some (j, rest)

theorem value?_skip (fuel : Nat) (cs : List Char) : value? fuel (skip cs) = value? fuel cs := by
  cases fuel with
  | zero => rw [value?, value?]
  | succ fuel => rw [value?, value?, skip_skip]

theorem items?_skip (fuel : Nat) (cs : List Char) : items? fuel (skip cs) = items? fuel cs := by
  cases fuel with
  | zero => rw [items?, items?]
  | succ fuel => rw [items?, items?, value?_skip]

theorem members?_skip (fuel : Nat) (cs : List Char) : members? fuel (skip cs) = members? fuel cs := by
  cases fuel with
  | zero => rw [members?, members?]
  | succ fuel => rw [members?, members?, skip_skip]

theorem readsAs_natural (n : Nat) : ReadsAs (.natural n) (Nat.toDigits 10 n) := by
  rintro (_ | fuel) rest hfuel hrest
  · cases hfuel
  · have hread := number?_toDigits n hrest
    obtain ⟨d, ds, hds, hdigit, -⟩ := toDigits_eq_cons n
    have hne : ∀ c, c.isDigit = false → d ≠ c := by
      rintro c hc rfl
      rw [hdigit] at hc
      cases hc
    have hspace : isSpace d = false := by
      simp [isSpace, hne ' ' rfl, hne '\t' rfl, hne '\n' rfl, hne '\r' rfl]
    rw [hds, List.cons_append] at hread ⊢
    rw [value?_number hspace, hread]
    simp [hne 'n' rfl, hne 't' rfl, hne 'f' rfl, hne '"' rfl, hne '[' rfl, hne '\x7b' rfl]

theorem readsAs_string (text : Option String) : ReadsAs (.string text) (writtenText text) := by
  rintro (_ | fuel) rest hfuel hrest
  · cases hfuel
  · obtain ⟨body, hbody, hread⟩ := stringBody_writtenText text rest
    obtain ⟨r, hr, htext⟩ := Option.map_eq_some_iff.1 hread
    rw [hbody, value?, skip_of_not (by decide)]
    simp only [hr, Option.map_some, htext]
    rw [show r.2 = rest from congrArg Prod.snd htext]

/-! ### Lists and objects -/

section

variable {fuel : Nat} {cs rest b : List Char}

theorem endsNumber_mark {c : Char} (h : c ∈ [',', ']', '\x7d']) : EndsNumber (c :: rest) := by
  rintro d ⟨⟩
  simp only [List.mem_cons, List.not_mem_nil, or_false] at h
  rcases h with rfl | rfl | rfl <;> decide

theorem items?_of_value {j : Json} (h : value? fuel cs = some (j, rest)) :
    items? (fuel + 1) cs = match skip rest with
      | ',' :: rest => (items? fuel rest).bind fun r => some (j :: r.1, r.2)
      | ']' :: rest => some ([j], rest)
      | _ => none := by
  rw [items?, h]
  simp only [Option.bind_eq_bind, Option.bind_some]
  split <;> simp_all

theorem members?_of_value {front text : List Char} {j : Json} (hfront : IsBlank front)
    (name : Option String) (h : value? fuel text = some (j, rest)) :
    members? (fuel + 1) (front ++ writtenText name ++ ':' :: text) = match skip rest with
      | ',' :: rest => (members? fuel rest).bind fun r => some ((name, j) :: r.1, r.2)
      | '\x7d' :: rest => some ([(name, j)], rest)
      | _ => none := by
  obtain ⟨body, hbody, hread⟩ := stringBody_writtenText name (':' :: text)
  rw [List.append_assoc, hbody, members?, skip_append hfront, skip_of_not (by decide)]
  simp only [hread, Option.bind_eq_bind, Option.bind_some, skip_of_not (c := ':') (by decide), h]
  split <;> simp_all

/-- Behind a part that is not the last there is a comma. -/
theorem intercalate_map_cons {α : Type} (f : α → List Char) (x y : α) (xs : List α) :
    [','].intercalate ((x :: y :: xs).map f) = f x ++ ',' :: [','].intercalate ((y :: xs).map f) := by
  simp [List.intercalate_cons_cons]

/-- Items that are shown are read one after the other. -/
theorem items?_shown {parts : List (Json × List Char)} (hparts : ∀ p ∈ parts, ReadsAs p.1 p.2)
    (hne : parts ≠ []) (hb : IsBlank b)
    (hfuel : ([','].intercalate (parts.map (·.2))).length + 1 < fuel) :
    items? fuel ([','].intercalate (parts.map (·.2)) ++ (b ++ ']' :: rest)) =
      some (parts.map (·.1), rest) := by
  induction parts generalizing fuel with
  | nil => exact absurd rfl hne
  | cons p parts ih =>
    obtain ⟨fuel, rfl⟩ := Nat.exists_eq_succ_of_ne_zero (Nat.ne_zero_of_lt hfuel)
    have hp := hparts p List.mem_cons_self fuel
    cases parts with
    | nil =>
      simp only [List.map_cons, List.map_nil, List.intercalate_singleton] at hfuel ⊢
      have hread := hp (b ++ ']' :: rest) (by omega)
        (endsNumber_of_isBlank hb (endsNumber_mark (by simp)))
      rw [items?_of_value hread, skip_append hb, skip_of_not (by decide)]
      rfl
    | cons q parts =>
      rw [intercalate_map_cons] at hfuel ⊢
      rw [List.length_append, List.length_cons] at hfuel
      rw [List.append_assoc, List.cons_append]
      have hread := hp (',' :: ([','].intercalate ((q :: parts).map (·.2)) ++ (b ++ ']' :: rest)))
        (by omega) (endsNumber_mark (by simp))
      have hrest : items? fuel ([','].intercalate ((q :: parts).map (·.2)) ++ (b ++ ']' :: rest)) =
          some ((q :: parts).map (·.1), rest) :=
        ih (fun p hp => hparts p (List.mem_cons_of_mem _ hp)) (by simp) (by omega)
      rw [items?_of_value hread, skip_of_not (by decide)]
      simp only [hrest]
      rfl

/-- Members that are shown are read one after the other. -/
theorem members?_shown {ms : List ShownMember} (hms : ∀ m ∈ ms, ReadsAs m.value m.text)
    (hfront : ∀ m ∈ ms, IsBlank m.front) (hne : ms ≠ []) (hb : IsBlank b)
    (hfuel : ([','].intercalate (ms.map (·.chars))).length + 1 < fuel) :
    members? fuel ([','].intercalate (ms.map (·.chars)) ++ (b ++ '\x7d' :: rest)) =
      some (ms.map (·.member), rest) := by
  induction ms generalizing fuel with
  | nil => exact absurd rfl hne
  | cons m ms ih =>
    obtain ⟨fuel, rfl⟩ := Nat.exists_eq_succ_of_ne_zero (Nat.ne_zero_of_lt hfuel)
    have hm := hms m List.mem_cons_self fuel
    have hblank := hfront m List.mem_cons_self
    have hchars : ∀ tail, m.chars ++ tail = m.front ++ writtenText m.name ++ ':' :: (m.text ++ tail) := by
      simp [ShownMember.chars]
    have hlength : m.text.length < m.chars.length := by
      simp only [ShownMember.chars, List.length_append, List.length_cons]
      omega
    cases ms with
    | nil =>
      simp only [List.map_cons, List.map_nil, List.intercalate_singleton] at hfuel ⊢
      have hread := hm (b ++ '\x7d' :: rest) (by omega)
        (endsNumber_of_isBlank hb (endsNumber_mark (by simp)))
      rw [hchars, members?_of_value hblank m.name hread, skip_append hb, skip_of_not (by decide)]
      rfl
    | cons n ms =>
      rw [intercalate_map_cons] at hfuel ⊢
      rw [List.length_append, List.length_cons] at hfuel
      rw [List.append_assoc, List.cons_append, hchars]
      have hread := hm (',' :: ([','].intercalate ((n :: ms).map (·.chars)) ++ (b ++ '\x7d' :: rest)))
        (by omega) (endsNumber_mark (by simp))
      have hrest : members? fuel ([','].intercalate ((n :: ms).map (·.chars)) ++ (b ++ '\x7d' :: rest)) =
          some ((n :: ms).map (·.member), rest) :=
        ih (fun m hm => hms m (List.mem_cons_of_mem _ hm))
          (fun m hm => hfront m (List.mem_cons_of_mem _ hm)) (by simp) (by omega)
      rw [members?_of_value hblank m.name hread, skip_of_not (by decide)]
      simp only [hrest]
      rfl

theorem value?_items {items : List Json} (h : items? fuel cs = some (items, rest)) :
    value? (fuel + 1) ('[' :: cs) = some (.array items, rest) := by
  rw [← items?_skip] at h
  rw [value?, skip_of_not (by decide)]
  simp only
  split
  · rename_i hclosing
    rw [hclosing, items?_closing] at h
    cases h
  · rw [h]
    rfl

theorem value?_members {members : List (Option String × Json)}
    (h : members? fuel cs = some (members, rest)) :
    value? (fuel + 1) ('\x7b' :: cs) = some (.object members, rest) := by
  rw [← members?_skip] at h
  rw [value?, skip_of_not (by decide)]
  simp only
  split
  · rename_i hclosing
    rw [hclosing, members?_closing] at h
    cases h
  · rw [h]
    rfl

end

theorem readsAs_array {parts : List (Json × List Char)} {b : List Char}
    (hparts : ∀ p ∈ parts, ReadsAs p.1 p.2) (hb : IsBlank b) :
    ReadsAs (.array (parts.map (·.1))) ('[' :: [','].intercalate (parts.map (·.2)) ++ b ++ [']']) := by
  rintro (_ | fuel) rest hfuel -
  · cases hfuel
  simp only [List.length_append, List.length_cons, List.length_nil, List.cons_append,
    List.append_assoc, List.nil_append] at hfuel ⊢
  by_cases hne : parts = []
  · subst hne
    rw [value?, skip_of_not (by decide)]
    simp [skip_append hb, skip_of_not (c := ']') (by decide)]
  · exact value?_items (items?_shown hparts hne hb (by omega))

theorem readsAs_object {ms : List ShownMember} {b : List Char}
    (hms : ∀ m ∈ ms, ReadsAs m.value m.text) (hfront : ∀ m ∈ ms, IsBlank m.front) (hb : IsBlank b) :
    ReadsAs (.object (ms.map (·.member)))
      ('\x7b' :: [','].intercalate (ms.map (·.chars)) ++ b ++ ['\x7d']) := by
  rintro (_ | fuel) rest hfuel -
  · cases hfuel
  simp only [List.length_append, List.length_cons, List.length_nil, List.cons_append,
    List.append_assoc, List.nil_append] at hfuel ⊢
  by_cases hne : ms = []
  · subst hne
    rw [value?, skip_of_not (by decide)]
    simp [skip_append hb, skip_of_not (c := '\x7d') (by decide)]
  · exact value?_members (members?_shown hms hfront hne hb (by omega))

/-- **What shows a value** is read as it. -/
theorem Shows.readsAs {j : Json} {cs : List Char} (h : Shows j cs) : ReadsAs j cs := by
  induction h with
  | @blank c j cs hc _ ih =>
    intro fuel rest hfuel hrest
    rw [List.cons_append, ← value?_skip, skip, List.dropWhile_cons, if_pos hc]
    exact (value?_skip fuel _).trans (ih fuel rest (by simp at hfuel; omega) hrest)
  | null => rintro (_ | fuel) rest hfuel -; cases hfuel; rw [value?]; rfl
  | true => rintro (_ | fuel) rest hfuel -; cases hfuel; rw [value?]; rfl
  | false => rintro (_ | fuel) rest hfuel -; cases hfuel; rw [value?]; rfl
  | natural n => exact readsAs_natural n
  | string text => exact readsAs_string text
  | array _ hb ih => exact readsAs_array ih hb
  | object _ hfront hb ih => exact readsAs_object ih hfront hb

/-- A text that shows a value is read as it. -/
theorem Shows.read?_eq {j : Json} {cs : List Char} (h : Shows j cs) : read? (.ofList cs) = some j := by
  have hread := h.readsAs (cs.length + 1) [] (Nat.lt_succ_self _) (by rintro c ⟨⟩)
  rw [List.append_nil] at hread
  simp only [read?, String.toList_ofList, hread]
  rfl

theorem Shows.blanks {j : Json} {b cs : List Char} (hb : IsBlank b) (h : Shows j cs) :
    Shows j (b ++ cs) := by
  induction b with
  | nil => exact h
  | cons c b ih =>
    exact .blank (hb c List.mem_cons_self) (ih fun d hd => hb d (List.mem_cons_of_mem _ hd))

/-! ## Both layouts -/

/-- All numbers in the value are natural. -/
inductive Whole : Json → Prop where
  | null : Whole .null
  | bool (b : Bool) : Whole (.bool b)
  | natural (n : Nat) : Whole (.natural n)
  | string (text : Option String) : Whole (.string text)
  | array {items : List Json} : (∀ i ∈ items, Whole i) → Whole (.array items)
  | object {members : List (Option String × Json)} : (∀ m ∈ members, Whole m.2) →
    Whole (.object members)

theorem writtenItems_eq (items : List Json) :
    writtenItems items = [','].intercalate (items.map written) := by
  induction items with
  | nil => rw [writtenItems]; rfl
  | cons item items ih =>
    cases items with
    | nil => rw [writtenItems, List.map_singleton, List.intercalate_singleton]
    | cons next items => rw [writtenItems, ih, intercalate_map_cons]

/-- A member as it is written in one line. -/
def writtenMember (m : Option String × Json) : ShownMember := ⟨[], m.1, m.2, written m.2⟩

theorem writtenMembers_eq (members : List (Option String × Json)) :
    writtenMembers members = [','].intercalate ((members.map writtenMember).map (·.chars)) := by
  induction members with
  | nil => rw [writtenMembers]; rfl
  | cons m members ih =>
    cases members with
    | nil =>
      rw [writtenMembers, List.map_singleton, List.map_singleton, List.intercalate_singleton]
      rfl
    | cons next members =>
      rw [writtenMembers, ih, List.map_map, List.map_map, intercalate_map_cons]
      simp [writtenMember, ShownMember.chars]

/-- **In one line** the value is shown. -/
theorem shows_written {j : Json} (h : Whole j) : Shows j (written j) := by
  induction h with
  | null => rw [written]; exact .null
  | bool b =>
    cases b with
    | false => rw [written]; exact .false
    | true => rw [written]; exact .true
  | natural n => rw [written]; exact .natural n
  | string text => rw [written]; exact .string text
  | @array items _ ih =>
    have hparts : ∀ p ∈ items.map fun i => (i, written i), Shows p.1 p.2 :=
      List.forall_mem_map.2 ih
    have hshows := Shows.array hparts (b := []) (by rintro c ⟨⟩)
    rw [written, writtenItems_eq]
    simpa [Function.comp_def] using hshows
  | @object members _ ih =>
    have hms : ∀ m ∈ members.map writtenMember, Shows m.value m.text := List.forall_mem_map.2 ih
    have hfront : ∀ m ∈ members.map writtenMember, IsBlank m.front :=
      List.forall_mem_map.2 fun m _ => by rintro c ⟨⟩
    have hshows := Shows.object hms hfront (b := []) (by rintro c ⟨⟩)
    rw [written, writtenMembers_eq]
    simpa [Function.comp_def, writtenMember, ShownMember.member] using hshows

theorem isBlank_newLine (depth : Nat) : IsBlank (newLine depth) := by
  intro c hc
  rcases List.mem_cons.1 hc with rfl | hc
  · rfl
  · rw [List.eq_of_mem_replicate hc]
    rfl

theorem spreadItems_eq (depth : Nat) (item : Json) (items : List Json) :
    newLine (depth + 1) ++ spread (depth + 1) item ++ spreadItems depth items =
      [','].intercalate ((item :: items).map fun i => newLine (depth + 1) ++ spread (depth + 1) i) := by
  induction items generalizing item with
  | nil => rw [spreadItems, List.append_nil, List.map_singleton, List.intercalate_singleton]
  | cons next items ih => rw [spreadItems, intercalate_map_cons, ← ih]; simp

/-- A member as it is written over several lines. -/
def spreadMember (depth : Nat) (m : Option String × Json) : ShownMember :=
  ⟨newLine (depth + 1), m.1, m.2, ' ' :: spread (depth + 1) m.2⟩

theorem spreadMembers_eq (depth : Nat) (m : Option String × Json) (members : List (Option String × Json)) :
    (spreadMember depth m).chars ++ spreadMembers depth members =
      [','].intercalate ((m :: members).map fun m => (spreadMember depth m).chars) := by
  induction members generalizing m with
  | nil => rw [spreadMembers, List.append_nil, List.map_singleton, List.intercalate_singleton]
  | cons next members ih =>
    rw [spreadMembers, intercalate_map_cons, ← ih]
    simp [spreadMember, ShownMember.chars]

/-- **Over several lines** the value is shown. -/
theorem shows_spread {j : Json} (h : Whole j) (depth : Nat) : Shows j (spread depth j) := by
  induction h generalizing depth with
  | null => rw [spread]; exact .null
  | bool b =>
    cases b with
    | false => rw [spread]; exact .false
    | true => rw [spread]; exact .true
  | natural n => rw [spread]; exact .natural n
  | string text => rw [spread]; exact .string text
  | @array items _ ih =>
    cases items with
    | nil => rw [spread]; exact @Shows.array [] [] nofun nofun
    | cons item items =>
      have hparts : ∀ p ∈ (item :: items).map fun i => (i, newLine (depth + 1) ++ spread (depth + 1) i),
          Shows p.1 p.2 :=
        List.forall_mem_map.2 fun i hi => (ih i hi (depth + 1)).blanks (isBlank_newLine _)
      have hshows := Shows.array hparts (isBlank_newLine depth)
      simp only [List.map_map, Function.comp_def, List.map_id', ← spreadItems_eq] at hshows
      rw [spread]
      simpa using hshows
  | @object members _ ih =>
    cases members with
    | nil => rw [spread]; exact @Shows.object [] [] nofun nofun nofun
    | cons m members =>
      have hms : ∀ n ∈ (m :: members).map (spreadMember depth), Shows n.value n.text :=
        List.forall_mem_map.2 fun n hn => .blank rfl (ih n hn (depth + 1))
      have hfront : ∀ n ∈ (m :: members).map (spreadMember depth), IsBlank n.front :=
        List.forall_mem_map.2 fun n _ => isBlank_newLine _
      have hshows := Shows.object hms hfront (isBlank_newLine depth)
      simp only [List.map_map, Function.comp_def, ← spreadMembers_eq] at hshows
      rw [spread]
      simpa [spreadMember, ShownMember.chars, ShownMember.member] using hshows

/-- **A value written in one line** is read as it. -/
theorem read?_compact {j : Json} (h : Whole j) : read? j.compact = some j := (shows_written h).read?_eq

/-- **A value written over several lines** is read as it. -/
theorem read?_pretty {j : Json} (h : Whole j) : read? j.pretty = some j := (shows_spread h 0).read?_eq

end TypeFoundry.Json
