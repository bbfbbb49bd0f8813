/-!
# Decimal numbers of 64 bits

Numbers are written in ASCII digits; a plus sign may stand in front. A number that does not fit
into 64 bits is refused.
-/

set_option autoImplicit false

namespace TypeFoundry.Text

/-- One more than the largest number that fits into a word. -/
def wordBound : Nat := Nat.pow 2 64

/-- The value of a list of digits, read from the left. -/
def digitsValue (ds : List Char) : Nat :=
  ds.foldl (fun n d => n * 10 + (d.toNat - '0'.toNat)) 0

theorem digitsValue_append_singleton (ds : List Char) (d : Char) :
    digitsValue (ds ++ [d]) = digitsValue ds * 10 + (d.toNat - '0'.toNat) := by
  rw [digitsValue, List.foldl_append]
  rfl

/-- The digits of a number denote the number. -/
theorem digitsValue_toDigits (n : Nat) : digitsValue (Nat.toDigits 10 n) = n := by
  induction n using Nat.strongRecOn with
  | ind n ih =>
    have hdigit : ∀ d < 10, (Nat.digitChar d).toNat - '0'.toNat = d := by decide
    by_cases hn : n < 10
    · rw [Nat.toDigits_of_lt_base hn]
      have hd := hdigit n hn
      have hone := digitsValue_append_singleton [] n.digitChar
      rw [hd] at hone
      exact hone.trans (Nat.zero_add n)
    · have hlt : n / 10 < n := Nat.div_lt_self (by omega) (by omega)
      rw [Nat.toDigits_of_base_le (by omega) (by omega), digitsValue_append_singleton, ih _ hlt,
        hdigit _ (Nat.mod_lt n (by omega))]
      omega

/-- The value of a non-empty list of ASCII digits below the bound. -/
def digits? (ds : List Char) : Option Nat :=
  if !ds.isEmpty && ds.all Char.isDigit && digitsValue ds < wordBound then some (digitsValue ds)
  else none

/-- The number that the text denotes. -/
def number? (s : String) : Option Nat :=
  match s.toList with
  | '+' :: ds => digits? ds
  | ds => digits? ds

end TypeFoundry.Text
