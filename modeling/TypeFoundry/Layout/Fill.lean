import TypeFoundry.Layout.Doc

/-!
# Filling lines

`render` writes a document as text. Lines are 89 wide, but however deep a line starts, 60 columns are
counted for it. A box is broken when the text up to the first break behind it does not fit on the
line; widths are counted in bytes of UTF-8. Blanks are written only in front of text, so no line
ends in a blank that a break stands for.
-/

set_option autoImplicit false

namespace TypeFoundry.Layout

/-- The width of a line. -/
def margin : Int := 89

/-- The width that a line has at least, however deep it starts. -/
def minRoom : Int := 60

/-- The width of the text up to the next break that is not inside a box opened on the way; `level`
boxes are open that are not left yet. -/
def reach : Nat → Doc → Nat
  | _, [] => 0
  | level, .text s :: ts => s.utf8ByteSize + reach level ts
  | level, .break b :: ts => if level = 0 then 0 else b.blank + reach level ts
  | level, .mark :: ts => if level = 0 then 0 else reach level ts
  | level, .wide :: ts => infinite + reach level ts
  | level, .opening _ _ :: ts => reach (level + 1) ts
  | level, .closing :: ts => reach (level - 1) ts

/-- A box that has been opened. -/
inductive Frame where
  /-- All of it stands on one line. -/
  | fits
  /-- It is broken; outside it, lines start at `outer`. -/
  | broken (outer : Int) (isConsistent : Bool)

/-- Where writing has got to. -/
structure Cursor where
  /-- Where the next line starts. -/
  start : Int
  /-- How much fits on the line. -/
  room : Int
  /-- Blanks that the next text is written behind. -/
  pending : Nat
  frames : List Frame

/-- The start of the first line. -/
def Cursor.initial : Cursor := ⟨0, margin, 0, []⟩

/-- Whether the line goes on at a break that the documents `rest` follow. -/
def Cursor.goesOn (c : Cursor) (b : Break) (rest : Doc) : Bool :=
  b.never ||
    match c.frames with
    | .fits :: _ => true
    | .broken _ true :: _ => false
    | .broken _ false :: _ => b.blank + reach 0 rest ≤ c.room
    | [] => b.blank + reach 0 rest ≤ c.room

/-- Blanks. -/
def blanks (n : Nat) : List Char := List.replicate n ' '

/-- The cursor behind a text. -/
def Cursor.afterText (c : Cursor) (s : String) : Cursor :=
  { c with room := c.room - s.utf8ByteSize, pending := 0 }

/-- The cursor behind a break at which the line goes on. -/
def Cursor.afterBlank (c : Cursor) (b : Break) : Cursor :=
  { c with room := c.room - b.blank - b.kept.utf8ByteSize, pending := c.pending + b.blank }

/-- The cursor on the line that a break starts. -/
def Cursor.nextLine (c : Cursor) (b : Break) : Cursor :=
  let start := c.start + b.offset
  let room := max (margin - start) minRoom
  if b.behind.isEmpty then { c with room := room, pending := start.toNat }
  else { c with room := room - b.behind.utf8ByteSize, pending := 0 }

/-- What is written where a line ends. -/
def Cursor.lineEnd (c : Cursor) (b : Break) : List Char :=
  (if b.before.isEmpty then [] else blanks c.pending ++ b.before.toList) ++ '\n' ::
    (if b.behind.isEmpty then [] else blanks (c.start + b.offset).toNat ++ b.behind.toList)

/-- The cursor inside a box that the documents `rest` follow. -/
def Cursor.enter (c : Cursor) (offset : Int) (isConsistent : Bool) (rest : Doc) : Cursor :=
  if reach 1 rest > c.room then
    { c with start := c.start + offset, frames := .broken c.start isConsistent :: c.frames }
  else { c with frames := .fits :: c.frames }

/-- The cursor behind a box. -/
def Cursor.exit (c : Cursor) : Cursor :=
  match c.frames with
  | .broken outer _ :: frames => { c with start := outer, frames := frames }
  | .fits :: frames => { c with frames := frames }
  | [] => c

/-- The text of a document from the cursor on. -/
def fill (c : Cursor) : Doc → List Char
  | [] => []
  | .text s :: ts => blanks c.pending ++ s.toList ++ fill (c.afterText s) ts
  | .break b :: ts =>
    if c.goesOn b ts then b.kept.toList ++ fill (c.afterBlank b) ts
    else c.lineEnd b ++ fill (c.nextLine b) ts
  | .mark :: ts => fill c ts
  | .wide :: ts => fill c ts
  | .opening offset isConsistent :: ts => fill (c.enter offset isConsistent ts) ts
  | .closing :: ts => fill c.exit ts

/-- The text of a document. -/
def render (d : Doc) : String := .ofList (fill .initial d)

end TypeFoundry.Layout
