import TypeFoundry.Naming.Name

/-!
# Type paths

A type path is the full name of a type: the modules that enclose it and its own name. It is written
with `::` between its parts, and ordered by the enclosing modules first and by the name second.
-/

set_option autoImplicit false

namespace TypeFoundry

open Source (Tokens TokenTree)

/-- The full name of a type. -/
structure TypePath where
  modules : List String
  name : String
  deriving DecidableEq, Inhabited

namespace TypePath

/-- The parts of the path from the outermost module to the type. -/
def segments (p : TypePath) : List String := p.modules ++ [p.name]

/-- The path as it is written. -/
def display (p : TypePath) : String := "::".intercalate p.segments

/-- Whether the word can be a part of a path. -/
def isSegment (w : String) : Bool := Source.segmentWords.contains w || !Source.isReserved w

/-- The words of a path that is written out in the tokens. -/
def words? : Tokens → Option (List String)
  | [.word w] => if isSegment w then some [w] else none
  | .word w :: .mark ':' true :: .mark ':' _ :: rest =>
    if isSegment w then (words? rest).map (w :: ·) else none
  | _ => none

/-- The words of the path, behind `::` if it starts with that. -/
def rootedWords? : Tokens → Option (List String)
  | .mark ':' true :: .mark ':' _ :: rest => words? rest
  | rest => words? rest

/-- The path without the name of the crate in front. -/
def dropCrate : List String → List String
  | "crate" :: rest => rest
  | parts => parts

/-- The path whose last part is the name of the type, if there is one. -/
def ofSegments? (parts : List String) : Option TypePath :=
  parts.getLast?.map fun name => ⟨parts.dropLast, name⟩

/-- The path that the text denotes. A leading `::` and one leading `crate` do not count. -/
def parse (text : String) : Option TypePath := do
  let tokens ← Source.tokens? (Text.trim text)
  let words ← rootedWords? tokens
  ofSegments? (dropCrate words)

/-- The order of paths, by code points. -/
def compare (p q : TypePath) : Ordering :=
  (Ord.compare p.modules q.modules).then (Ord.compare p.name q.name)

instance : Ord TypePath := ⟨compare⟩

/-- The path from the root of a crate, fit for every place in it. -/
def crateSegments (p : TypePath) : List String := "crate" :: p.segments

end TypePath

end TypeFoundry
