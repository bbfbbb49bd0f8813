import TypeFoundry.Failure
import TypeFoundry.Text.Lines

/-!
# Namespaces

A namespace is the list of modules that types are declared in, written with `::` between them.
-/

set_option autoImplicit false

namespace TypeFoundry

/-- Fails with the fault of the name, if it has one; `what` is what the name is for. -/
def requireName (what name : String) : Except Failure Unit :=
  match checkName name with
  | .ok _ => .ok ()
  | .error fault => .error (.schema (.name what name fault))

namespace Namespace

/-- The parts of the characters between the double colons, at least one. -/
def splitColons : List Char → List (List Char)
  | [] => [[]]
  | ':' :: ':' :: rest => [] :: splitColons rest
  | c :: rest =>
    match splitColons rest with
    | [] => [[c]]
    | part :: parts => (c :: part) :: parts

theorem splitColons_ne_nil (cs : List Char) : splitColons cs ≠ [] := by
  fun_cases splitColons cs <;> simp

/-- A character that starts no double colon belongs to the part behind it. -/
theorem splitColons_cons {c : Char} {cs part : List Char} {parts : List (List Char)}
    (hc : c = ':' → cs.head? ≠ some ':') (h : splitColons cs = part :: parts) :
    splitColons (c :: cs) = (c :: part) :: parts := by
  rw [splitColons.eq_3 c cs ?_, h]
  rintro rest rfl rfl
  exact hc rfl rfl

/-- The modules that the text lists, if each has a name that a request may use. Blanks around the
text and around its parts do not count, and a blank text lists no modules. -/
def segments? (text : String) : Option (List String) :=
  let text := Text.trim text
  if text.isEmpty then some []
  else
    let parts := (splitColons text.toList).map fun part => Text.trim (.ofList part)
    if parts.all fun part => (checkName part).isOk then some parts else none

/-- The modules that the text lists, or the failure that says that it lists none. -/
def segments (text : String) : Except Failure (List String) :=
  match segments? text with
  | some parts => .ok parts
  | none => .error (.settings (.namespace (Text.trim text)))

end Namespace

end TypeFoundry
