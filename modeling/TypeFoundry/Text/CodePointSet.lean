/-!
# Sets of code points

A set of code points is given by its edges: the increasing list of the code points at which
membership changes, starting outside the set. The tables of the character classes are written this
way, for the code points from 128 on; the classes themselves say what holds of ASCII.
-/

set_option autoImplicit false

namespace TypeFoundry.Text

/-- A set of code points, given by the code points at which membership changes. -/
structure CodePointSet where
  edges : List Nat

namespace CodePointSet

/-- Whether an odd number of leading edges is at most `n`: the last edge passed opened a run. -/
def inside : List Nat → Nat → Bool
  | [], _ => false
  | e :: es, n => if n < e then false else !(inside es n)

/-- Whether the character is in the set. -/
def contains (s : CodePointSet) (c : Char) : Bool := inside s.edges c.toNat

/-- Below its first edge a set is empty. -/
theorem inside_of_lt {e n : Nat} {es : List Nat} (h : n < e) : inside (e :: es) n = false := by
  simp [inside, h]

end CodePointSet

end TypeFoundry.Text
