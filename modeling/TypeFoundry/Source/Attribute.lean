import TypeFoundry.Source.Token

/-!
# Attributes

An attribute stands in brackets behind a hash mark. It belongs to what follows it or, with an
exclamation mark, to what encloses it. Its arguments stay tokens.
-/

set_option autoImplicit false

namespace TypeFoundry.Source

/-- A path of plain names; `rooted` if two colons stand in front. -/
structure NamePath where
  rooted : Bool
  names : List String
  deriving DecidableEq

/-- What the brackets of an attribute hold: a path alone, with arguments in delimiters, or with a
value behind an equals sign. -/
inductive Meta where
  | flag (path : NamePath)
  | call (path : NamePath) (d : Delimiter) (arguments : Tokens)
  | value (path : NamePath) (tokens : Tokens)
  deriving DecidableEq

/-- An attribute; `inner` if it belongs to what encloses it. -/
structure Attribute where
  inner : Bool
  content : Meta
  deriving DecidableEq

end TypeFoundry.Source
