/-!
# Reserved words

The words that are no identifiers, and among them those that a path may nevertheless use as a
segment.
-/

set_option autoImplicit false

namespace TypeFoundry.Source

/-- The words that cannot name anything, the underscore among them. -/
def reservedWords : List String :=
  ["_", "abstract", "as", "async", "await", "become", "box", "break", "const", "continue", "crate",
   "do", "dyn", "else", "enum", "extern", "false", "final", "fn", "for", "if", "impl", "in", "let",
   "loop", "macro", "match", "mod", "move", "mut", "override", "priv", "pub", "ref", "return",
   "Self", "self", "static", "struct", "super", "trait", "true", "try", "type", "typeof", "unsafe",
   "unsized", "use", "virtual", "where", "while", "yield"]

/-- Whether the word is reserved. A raw identifier never is. -/
def isReserved (w : String) : Bool := reservedWords.contains w

/-- The reserved words that may stand as a segment of a path. -/
def segmentWords : List String := ["super", "self", "Self", "crate", "try"]

/-- The words that a raw identifier cannot be made of. -/
def neverRaw : List String := ["_", "super", "self", "Self", "crate"]

end TypeFoundry.Source
