/-!
# Documents

A document is a list of layout tokens: text, places where a line may end, and the edges of boxes. A
box that does not fit on its line is *broken*: in a consistent box all its breaks then end their
line, in an inconsistent box only those before text that would not fit. Combinators build documents
so that boxes are closed and a break that would end an empty box is never written; where such a break
is left out, a `mark` stays behind, since the text before it counts as ending there.
-/

set_option autoImplicit false

namespace TypeFoundry.Layout

/-- A place where a line may end. -/
structure Break where
  /-- How much deeper than its box the next line starts. -/
  offset : Int
  /-- How many blanks are written if the line does not end. -/
  blank : Nat
  /-- What is written if the line does not end. -/
  kept : String
  /-- What is written before the line ends. -/
  before : String
  /-- What is written where the next line starts. -/
  behind : String
  /-- Whether the line never ends here. -/
  never : Bool

/-- A piece of a document. -/
inductive Token where
  | text (s : String)
  | break (b : Break)
  | mark
  | wide
  | opening (offset : Int) (isConsistent : Bool)
  | closing

/-- A document: layout tokens in order, with matching edges of boxes. -/
abbrev Doc := List Token

/-- How much deeper the inside of braces stands. -/
def indent : Int := 4

/-- A width that fits on no line. -/
def infinite : Nat := 0xffff

/-- A break with the given offset and blanks. -/
def breakWith (offset : Int) (blank : Nat) : Doc := [.break ⟨offset, blank, "", "", "", false⟩]

/-- The text as it is. -/
def word (s : String) : Doc := [.text s]

/-- A blank where no line ends. -/
def nbsp : Doc := word " "

/-- A break that is nothing on one line. -/
def zerobreak (offset : Int) : Doc := breakWith offset 0

/-- A break that is a blank on one line. -/
def space (offset : Int) : Doc := breakWith offset 1

/-- A break that always ends the line. -/
def hardbreak (offset : Int) : Doc := breakWith offset infinite

/-- A place that text before it counts as ending at, though no line ends there. -/
def neverbreak : Doc := [.break ⟨0, 0, "", "", "", true⟩]

/-- A break that writes a comma where the line ends. -/
def commaBreak (offset : Int) (blank : Nat) : Doc := [.break ⟨offset, blank, "", ",", "", false⟩]

/-- The document in a consistent box. -/
def cbox (offset : Int) (d : Doc) : Doc := [.opening offset true] ++ d ++ [.closing]

/-- The document in an inconsistent box. -/
def ibox (offset : Int) (d : Doc) : Doc := [.opening offset false] ++ d ++ [.closing]

/-- The documents with a comma behind each; behind the last it is written only where the line ends,
and the break there has the given offset and blanks. -/
def commaList (parts : List Doc) (offset : Int) (blank : Nat) : Doc :=
  match parts with
  | [] => []
  | [last] => last ++ commaBreak offset blank
  | part :: parts => part ++ word "," ++ space 0 ++ commaList parts offset blank

/-- Documents between delimiters, each followed by a comma, the inside deeper by `offset` than what
encloses it. Without documents only the delimiters are left. -/
def enclosed (opener closer : String) (offset : Int) (parts : List Doc) : Doc :=
  word opener ++
    (if parts.isEmpty then [] else cbox offset (zerobreak 0 ++ commaList parts (-indent) 0)) ++
    word closer

/-- The same in the box of the caller. -/
def enclosedHere (opener closer : String) (parts : List Doc) : Doc :=
  word opener ++
    (if parts.isEmpty then zerobreak (-indent) else zerobreak 0 ++ commaList parts (-indent) 0) ++
    word closer

/-- The documents with the separator between any two. -/
def separated (sep : Doc) : List Doc → Doc
  | [] => []
  | [last] => last
  | part :: parts => part ++ sep ++ separated sep parts

/-- Something that stands on a line of its own in a broken box, and how many blanks follow it where
the line does not end. -/
structure Line where
  content : Doc
  blank : Nat

/-- A line that always ends. -/
def Line.whole (d : Doc) : Line := ⟨d, infinite⟩

/-- The lines one after another, each with its end. -/
def lineList (lines : List Line) : Doc :=
  lines.flatMap fun l => l.content ++ breakWith 0 l.blank

/-- The lines with their ends, the last of which starts its next line less deep. -/
def innerLines : List Line → Doc
  | [] => []
  | [last] => last.content ++ breakWith (-indent) last.blank
  | l :: ls => l.content ++ breakWith 0 l.blank ++ innerLines ls

/-- What stands between braces in the box of the caller: nothing, or the lines, each on its own. -/
def bodyLines (lines : List Line) : Doc :=
  if lines.isEmpty then [.mark] else hardbreak 0 ++ innerLines lines

/-- The width of a document on one line. -/
def flatWidth : Doc → Nat
  | [] => 0
  | .text s :: ts => s.utf8ByteSize + flatWidth ts
  | .break b :: ts => b.blank + flatWidth ts
  | .wide :: ts => infinite + flatWidth ts
  | _ :: ts => flatWidth ts

/-- The document in a consistent box that is broken if it is wider than `max`. -/
def cboxUpTo (max : Nat) (offset : Int) (d : Doc) : Doc :=
  cbox offset (if flatWidth d > max then d ++ [.wide] else d)

end TypeFoundry.Layout
