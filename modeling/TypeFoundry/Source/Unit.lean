import TypeFoundry.Source.Item.Read

/-!
# Source units

`SourceUnit.read` reads the text of a unit. A text that is no unit is answered by the place of the
fault: where scanning or reading stops, by line and column, both from 1, columns in characters. If
the text ends too early the place is the start of the text.
-/

set_option autoImplicit false

namespace TypeFoundry.Source

/-- A place in a text, counted from 1. -/
structure Position where
  line : Nat
  column : Nat
  deriving DecidableEq

/-- The start of a text. -/
def Position.start : Position := ⟨1, 1⟩

/-- The place behind one more character. -/
def Position.next (p : Position) (c : Char) : Position :=
  if c = '\n' then ⟨p.line + 1, 1⟩ else ⟨p.line, p.column + 1⟩

/-- The place behind the characters. -/
def Position.behind (cs : List Char) : Position := cs.foldl Position.next .start

/-- The place in the text at which `here`, an end of the text, starts. -/
def Position.of (text here : List Char) : Position :=
  .behind (text.take (text.length - here.length))

/-- The first line, if it is a shebang and not the start of an attribute, and the text behind it. -/
def splitShebang (text : List Char) : Option String × List Char :=
  match text with
  | '#' :: '!' :: rest =>
    if (Scan.skipBlanks rest).head? = some '[' then (none, text)
    else (some (.ofList (text.takeWhile (· != '\n'))), text.dropWhile (· != '\n'))
  | _ => (none, text)

/-- The unit that the text is, or the place of the fault. -/
def SourceUnit.read (source : String) : Except Position SourceUnit :=
  let (shebang, text) := splitShebang (Scan.dropMark source.toList)
  match scan text with
  | .error here => .error (.of text here)
  | .ok placed =>
    match Reader.unitBody (trees (placed.map (·.lexeme))) with
    | .ok ((attrs, items), _) => .ok ⟨shebang, attrs, items⟩
    | .error stop =>
      match placed[placed.length - stop.unread]? with
      | some lexeme => .error (.of text lexeme.here)
      | none => .error .start

/-- The unit that the text is. -/
def SourceUnit.read? (source : String) : Option SourceUnit := (SourceUnit.read source).toOption

end TypeFoundry.Source
