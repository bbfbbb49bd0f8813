import TypeFoundry.Source.Ty

/-!
# Patterns

Patterns, as they stand in bindings, parameters and the arms of a `match`.
-/

set_option autoImplicit false

namespace TypeFoundry.Source

mutual

/-- A pattern. -/
inductive Pattern where
  | wild
  | rest
  | binding (isRef : Bool) (isMut : Bool) (name : String) (sub : Option Pattern)
  | literal (text : String)
  | path (p : Path)
  | range (lower : Option Pattern) (isClosed : Bool) (upper : Option Pattern)
  | reference (isMut : Bool) (p : Pattern)
  | tuple (elems : List Pattern) (comma : Bool)
  | paren (p : Pattern)
  | slice (elems : List Pattern)
  | variant (p : Path) (elems : List Pattern)
  | record (p : Path) (fields : List FieldPattern) (isOpen : Bool)
  | alternatives (leading : Bool) (choices : List Pattern)
  | typed (p : Pattern) (t : Ty)

/-- A field of a struct pattern; without a member the pattern binds the variable of its name. -/
inductive FieldPattern where
  | mk (member : Option String) (p : Pattern)

end

instance : Inhabited Pattern := ⟨.wild⟩

end TypeFoundry.Source
