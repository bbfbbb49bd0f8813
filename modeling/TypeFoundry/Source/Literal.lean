import TypeFoundry.Source.Scan

/-!
# The values of literals

Which kind of literal a written form is, and the text that a string literal denotes. Written forms
are taken to be ones that scanning yields.
-/

set_option autoImplicit false

namespace TypeFoundry.Source.Literal

/-- Whether the literal is a string of text, raw or not. -/
def isText (written : String) : Bool :=
  match written.toList with
  | '"' :: _ => true
  | 'r' :: _ => true
  | _ => false

/-- Whether the literal is a number. -/
def isNumber (written : String) : Bool := written.toList.head?.any Char.isDigit

/-- Whether the literal is a whole number: neither a point nor an exponent. -/
def isWhole (written : String) : Bool :=
  isNumber written && (Scan.floatDigits written.toList).isNone

/-- Whether the literal is a whole number, a character or a byte. -/
def isSimple (written : String) : Bool :=
  isWhole written ||
    match written.toList with
    | '\'' :: _ => true
    | 'b' :: '\'' :: _ => true
    | _ => false

/-- What follows the blanks that a backslash at the end of a line skips. -/
def skipLineBlanks (cs : List Char) : List Char :=
  cs.dropWhile fun c => c == ' ' || c == '\t' || c == '\n' || c == '\r'

/-- The character behind a backslash and what follows it. -/
def escapedChar : List Char → Option (Char × List Char)
  | 'x' :: c :: d :: cs => do
    let x ← Scan.hexValue? c
    let y ← Scan.hexValue? d
    some (.ofNat (x * 16 + y), cs)
  | 'u' :: cs => do
    let (n, rest) ← Scan.bracedChar cs
    some (.ofNat n, rest)
  | 'n' :: cs => some ('\n', cs)
  | 'r' :: cs => some ('\r', cs)
  | 't' :: cs => some ('\t', cs)
  | '0' :: cs => some ('\x00', cs)
  | c :: cs => some (c, cs)
  | [] => none

/-- The text up to the closing quote; at most `fuel` characters are read. -/
def cookedValue : Nat → List Char → List Char
  | 0, _ => []
  | _, [] => []
  | _, '"' :: _ => []
  | fuel + 1, '\r' :: '\n' :: cs => '\n' :: cookedValue fuel cs
  | fuel + 1, '\\' :: '\n' :: cs => cookedValue fuel (skipLineBlanks cs)
  | fuel + 1, '\\' :: '\r' :: cs => cookedValue fuel (skipLineBlanks cs)
  | fuel + 1, '\\' :: cs =>
    match escapedChar cs with
    | some (c, rest) => c :: cookedValue fuel rest
    | none => []
  | fuel + 1, c :: cs => c :: cookedValue fuel cs

/-- The text up to the closing quote and its hashes. -/
def rawValue (hashes : List Char) : List Char → List Char
  | [] => []
  | c :: cs =>
    if c = '"' && hashes.isPrefixOf cs then [] else c :: rawValue hashes cs

/-- The text that a string literal denotes. -/
def textValue? (written : String) : Option String :=
  match written.toList with
  | '"' :: cs => some (.ofList (cookedValue cs.length cs))
  | 'r' :: cs =>
    some (.ofList (rawValue (cs.takeWhile (· == '#')) ((cs.dropWhile (· == '#')).drop 1)))
  | _ => none

end TypeFoundry.Source.Literal
