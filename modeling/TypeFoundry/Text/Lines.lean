/-!
# Lines and columns of text

A line ends with a line feed; a carriage return right before it belongs to the line end. Columns
are cut at a separator character.
-/

set_option autoImplicit false

namespace TypeFoundry.Text

/-- The parts between the separators, at least one. -/
def splitOnChar (sep : Char) : List Char → List (List Char)
  | [] => [[]]
  | c :: cs =>
    if c = sep then [] :: splitOnChar sep cs
    else
      match splitOnChar sep cs with
      | [] => [[c]]
      | part :: parts => (c :: part) :: parts

/-- The line without a carriage return at its end. -/
def dropReturn (line : List Char) : List Char :=
  if line.getLast? = some '\r' then line.dropLast else line

/-- The lines that end with a line feed and, unless it is empty, the rest after the last one. -/
def lineList : List (List Char) → List (List Char)
  | [] => []
  | [last] => if last.isEmpty then [] else [last]
  | line :: lines => dropReturn line :: lineList lines

/-- The lines of the text. -/
def lines (s : String) : List String :=
  (lineList (splitOnChar '\n' s.toList)).map .ofList

/-- The columns of a line. -/
def columns (sep : Char) (s : String) : List String :=
  (splitOnChar sep s.toList).map .ofList

end TypeFoundry.Text
