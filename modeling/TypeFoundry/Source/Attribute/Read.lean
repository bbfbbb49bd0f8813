import TypeFoundry.Source.Attribute
import TypeFoundry.Source.Reader

/-!
# Reading attributes

Attributes are read one after another. The value behind an equals sign is an expression, which is
read by `constant` and kept as tokens.
-/

set_option autoImplicit false

namespace TypeFoundry.Source.Reader

/-- Names with two colons between them. -/
def nameList : Nat → Reader (List String)
  | 0 => stop
  | fuel + 1 => do
    let a ← nameOr ["super", "self", "Self", "crate", "try"]
    if ← operator? "::" then return a :: (← nameList fuel)
    else return [a]

/-- A path of plain names. -/
def namePath : Reader NamePath := do
  let rooted ← operator? "::"
  return ⟨rooted, ← nameList (TokenTree.sizes (← rest) + 1)⟩

section

variable (constant : Reader Unit)

/-- What the brackets of an attribute hold. -/
def metaContent : Reader Meta := do
  let path ← if ← keyword? "unsafe" then pure ⟨false, ["unsafe"]⟩ else namePath
  let ts ← rest
  match ts with
  | .group .. :: _ =>
    let (d, arguments) ← anyGroup
    return .call path d arguments
  | _ =>
    if ← operator? "=" then return .value path (← spelled constant).2
    else return .flag path

/-- An attribute of what encloses it. -/
def innerAttribute : Reader Attribute := do
  operator "#"
  operator "!"
  return ⟨true, ← group .bracket (metaContent constant)⟩

/-- An attribute of what follows it. -/
def outerAttribute : Reader Attribute := do
  operator "#"
  return ⟨false, ← group .bracket (metaContent constant)⟩

/-- All attributes here that belong to what encloses them. -/
def innerAttributes : Reader (List Attribute) := fun ts =>
  manyWhile (fun ts => startsOp "#" ts && startsOp "!" (behind ts)) (innerAttribute constant)
    (TokenTree.sizes ts + 1) ts

/-- All attributes here that belong to what follows them. -/
def outerAttributes : Reader (List Attribute) := fun ts =>
  manyWhile (startsOp "#") (outerAttribute constant) (TokenTree.sizes ts + 1) ts

end

end TypeFoundry.Source.Reader
