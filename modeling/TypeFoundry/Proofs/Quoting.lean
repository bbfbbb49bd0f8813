import Mathlib.Algebra.Group.Nat.Defs
import TypeFoundry.Source.Literal
import TypeFoundry.Text.Quoted

/-!
# Literals denote what they were written for

The string literal of a text denotes that text (`textValue?_stringLiteral`), whichever characters it
has to escape. The one escape that is longer than four characters is that of a code point, whose digits
are read back as the code point (`bracedChar_toDigits`).
-/

set_option autoImplicit false

namespace TypeFoundry.Source

open Text

/-! ## Hexadecimal digits -/

namespace Scan

theorem hexValue?_digitChar {d : Nat} (h : d < 16) : hexValue? (Nat.digitChar d) = some d := by
  have hall : ∀ d < 16, hexValue? (Nat.digitChar d) = some d := by decide
  exact hall d h

/-- The digits of a number are read one after the other, as long as there are six at most. -/
theorem bracedDigits_toDigits {n count : Nat} (rest : List Char)
    (h : count + (Nat.toDigits 16 n).length ≤ 6) (value : Nat) :
    bracedDigits count value (Nat.toDigits 16 n ++ rest) =
      bracedDigits (count + (Nat.toDigits 16 n).length)
        (value * 16 ^ (Nat.toDigits 16 n).length + n) rest := by
  induction n using Nat.strongRecOn generalizing rest with
  | ind n ih =>
    by_cases hn : n < 16
    · rw [Nat.toDigits_of_lt_base hn] at h ⊢
      rw [List.singleton_append, bracedDigits, hexValue?_digitChar hn]
      simp only [List.length_singleton] at h ⊢
      rw [if_neg (by omega), Nat.pow_one]
    · have hlt : n / 16 < n := Nat.div_lt_self (by omega) (by omega)
      have hmod : n % 16 < 16 := Nat.mod_lt n (by omega)
      rw [Nat.toDigits_of_base_le (by omega) (by omega)] at h ⊢
      rw [List.length_append, List.length_singleton] at h ⊢
      rw [List.append_assoc, ih _ hlt _ (by omega), List.singleton_append, bracedDigits,
        hexValue?_digitChar hmod]
      simp only
      rw [if_neg (by omega), Nat.add_assoc]
      congr 1
      rw [Nat.pow_succ, Nat.add_mul, Nat.mul_assoc]
      omega

/-- **The digits of a code point** between braces are read as the code point. -/
theorem bracedChar_toDigits (c : Char) (rest : List Char) :
    bracedChar ('\x7b' :: (Nat.toDigits 16 c.toNat ++ '\x7d' :: rest)) = some (c.toNat, rest) := by
  have hvalid : c.toNat.isValidChar := c.valid
  have hlength : (Nat.toDigits 16 c.toNat).length ≤ 6 := by
    rw [Nat.length_toDigits_le_iff (by omega) (by omega)]
    rcases hvalid with h | ⟨-, h⟩ <;> omega
  have hpos : 0 < (Nat.toDigits 16 c.toNat).length := Nat.length_toDigits_pos
  have hdigits : bracedDigits 0 0 (Nat.toDigits 16 c.toNat ++ '\x7d' :: rest) =
      some (c.toNat, rest) := by
    rw [bracedDigits_toDigits _ (by omega), bracedDigits, show hexValue? '\x7d' = none by decide]
    simp only
    rw [if_neg (by omega), if_neg (by decide), if_pos trivial, Nat.zero_mul,
      Nat.zero_add]
  simp only [bracedChar, after?]
  rw [if_pos (by rfl)]
  simp only [Option.bind_eq_bind, Option.bind_some]
  rw [show List.drop "\x7b".length ('\x7b' :: (Nat.toDigits 16 c.toNat ++ '\x7d' :: rest)) =
    Nat.toDigits 16 c.toNat ++ '\x7d' :: rest from rfl, hdigits]
  simp only [Option.bind_some, if_pos hvalid]

end Scan

/-! ## Escapes -/

namespace Literal

/-- Behind a backslash, what is no line end is read as an escape. -/
theorem cookedValue_escape {fuel : Nat} {e c : Char} {tail rest : List Char} (hn : e ≠ '\n')
    (hr : e ≠ '\r') (h : escapedChar (e :: tail) = some (c, rest)) :
    cookedValue (fuel + 1) ('\\' :: e :: tail) = c :: cookedValue fuel rest := by
  rw [cookedValue, h]
  · rintro cs ⟨⟩
    exact hn rfl
  · rintro cs ⟨⟩
    exact hr rfl

theorem cookedValue_plain {fuel : Nat} {c : Char} {rest : List Char} (hquote : c ≠ '"')
    (hslash : c ≠ '\\') (hreturn : c ≠ '\r') :
    cookedValue (fuel + 1) (c :: rest) = c :: cookedValue fuel rest := by
  rw [cookedValue]
  · rintro rfl
    exact hquote rfl
  · rintro cs rfl -
    exact hreturn rfl
  · rintro cs rfl -
    exact hslash rfl
  · rintro cs rfl -
    exact hslash rfl
  · rintro rfl
    exact hslash rfl

/-- What a character is written as is read as that character. -/
theorem cookedValue_escaped (fuel : Nat) (c : Char) (rest : List Char) :
    cookedValue (fuel + 1) (escaped c ++ rest) = c :: cookedValue fuel rest := by
  unfold escaped
  split
  · exact cookedValue_escape (by decide) (by decide) rfl
  · exact cookedValue_escape (by decide) (by decide) rfl
  · exact cookedValue_escape (by decide) (by decide) rfl
  · exact cookedValue_escape (by decide) (by decide) rfl
  · exact cookedValue_escape (by decide) (by decide) rfl
  · exact cookedValue_escape (by decide) (by decide) rfl
  · split
    · have hescape : escapedChar ('u' :: '\x7b' :: (Nat.toDigits 16 c.toNat ++ '\x7d' :: rest)) =
          some (c, rest) := by
        rw [escapedChar, Scan.bracedChar_toDigits]
        simp only [Option.bind_eq_bind, Option.bind_some, Char.ofNat_toNat]
      simp only [codePointEscape, List.cons_append, List.nil_append, List.append_assoc]
      exact cookedValue_escape (by decide) (by decide) hescape
    · exact cookedValue_plain ‹_› ‹_› ‹_›

theorem cookedValue_literalBody {fuel : Nat} {cs : List Char} (h : cs.length ≤ fuel) :
    cookedValue fuel (literalBody cs ++ ['"']) = cs := by
  induction cs generalizing fuel with
  | nil => cases fuel <;> simp [literalBody, cookedValue]
  | cons c cs ih =>
    obtain ⟨fuel, rfl⟩ := Nat.exists_eq_succ_of_ne_zero (Nat.ne_zero_of_lt h)
    have hrest := ih (Nat.le_of_succ_le_succ h)
    rw [literalBody, List.append_assoc]
    split
    · -- a NUL before an octal digit has a longer form
      rename_i hnul
      simp only [Bool.and_eq_true, decide_eq_true_eq] at hnul
      rw [hnul.1]
      exact (cookedValue_escape (by decide) (by decide) rfl).trans (congrArg _ hrest)
    · rw [cookedValue_escaped, hrest]

theorem length_le_literalBody (cs : List Char) : cs.length ≤ (literalBody cs).length := by
  induction cs with
  | nil => exact Nat.le_refl 0
  | cons c cs ih =>
    have hescaped : 0 < (escaped c).length := by
      unfold escaped
      split <;> try exact Nat.zero_lt_succ _
      split
      · simp [codePointEscape]
      · exact Nat.zero_lt_succ _
    rw [literalBody, List.length_append, List.length_cons]
    split
    · simp only [List.length_cons, List.length_nil]
      omega
    · omega

/-- **A string literal denotes the text** that it was written for. -/
theorem textValue?_stringLiteral (s : String) : textValue? (stringLiteral s) = some s := by
  have hlength := length_le_literalBody s.toList
  simp only [textValue?, stringLiteral, String.toList_ofList, List.cons_append]
  rw [cookedValue_literalBody, String.ofList_toList]
  rw [List.length_append]
  omega

end Literal

end TypeFoundry.Source
