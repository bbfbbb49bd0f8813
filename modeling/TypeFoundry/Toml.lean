import TypeFoundry.Json.Read

/-!
# Settings files

The part of the TOML format that settings are written in: one entry a line, whose value is a text,
an integer, a truth value or a list of texts. Files that need more of the format, such as tables,
numbers with a fraction or dates, are refused.
-/

set_option autoImplicit false

namespace TypeFoundry.Toml

/-- The value of an entry. -/
inductive Value where
  | text (s : String)
  | integer (n : Int)
  | bool (b : Bool)
  | texts (items : List String)

/-! ## Blanks, comments and line ends -/

/-- Whether the character may stand between the parts of a line. -/
def isSpace (c : Char) : Bool := c == ' ' || c == '\t'

/-- Whether the character may stand in a comment. -/
def isCommentChar (c : Char) : Bool := c == '\t' || (0x20 ≤ c.toNat && c.toNat != 0x7f)

/-- What follows the blanks. -/
def skip (cs : List Char) : List Char := cs.dropWhile isSpace

/-- What follows the blanks and a comment. -/
def skipComment (cs : List Char) : List Char :=
  match skip cs with
  | '#' :: rest => rest.dropWhile isCommentChar
  | rest => rest

/-- What follows the end of a line. -/
def lineEnd? : List Char → Option (List Char)
  | '\n' :: rest => some rest
  | '\r' :: '\n' :: rest => some rest
  | _ => none

/-- What follows blanks, comments and line ends; `fuel` bounds the number of lines. -/
def skipLines : Nat → List Char → List Char
  | 0, cs => cs
  | fuel + 1, cs =>
    match lineEnd? (skipComment cs) with
    | some rest => skipLines fuel rest
    | none => skipComment cs

/-! ## Texts -/

/-- Whether the character may stand in a text as it is. -/
def isTextChar (c : Char) : Bool := isCommentChar c

/-- The character with the number that the hexadecimal digits denote. -/
def charOfHex? (ds : List Char) : Option Char := do
  let n ← ds.foldlM (fun n d => (Json.hexValue? d).map (n * 16 + ·)) 0
  if n.isValidChar then return .ofNat n else none

/-- The character that one letter behind a backslash stands for. -/
def shortEscape? : Char → Option Char
  | 'b' => some '\x08'
  | 't' => some '\t'
  | 'n' => some '\n'
  | 'f' => some '\x0c'
  | 'r' => some '\r'
  | '"' => some '"'
  | '\\' => some '\\'
  | _ => none

/-- Reads an escape behind its backslash. -/
def escape? : List Char → Option (Char × List Char)
  | 'u' :: a :: b :: c :: d :: rest => (charOfHex? [a, b, c, d]).map (·, rest)
  | 'U' :: a :: b :: c :: d :: e :: f :: g :: h :: rest =>
    (charOfHex? [a, b, c, d, e, f, g, h]).map (·, rest)
  | e :: rest => (shortEscape? e).map (·, rest)
  | [] => none

/-- Reads a text in double quotes behind its opening quote. -/
def basicText? (fuel : Nat) (cs : List Char) : Option (List Char × List Char) :=
  match fuel, cs with
  | 0, _ => none
  | _, [] => none
  | _, '"' :: rest => some ([], rest)
  | fuel + 1, '\\' :: rest => do
    let (c, rest) ← escape? rest
    let (text, behind) ← basicText? fuel rest
    return (c :: text, behind)
  | fuel + 1, c :: rest =>
    if isTextChar c then (basicText? fuel rest).map fun (text, behind) => (c :: text, behind)
    else none

/-- Reads a text in single quotes behind its opening quote. -/
def literalText? : List Char → Option (List Char × List Char)
  | [] => none
  | '\'' :: rest => some ([], rest)
  | c :: rest =>
    if isTextChar c then (literalText? rest).map fun (text, behind) => (c :: text, behind)
    else none

/-- What follows blanks and line ends. -/
def skipBreaks (cs : List Char) : List Char :=
  match cs with
  | '\r' :: '\n' :: rest => skipBreaks rest
  | c :: rest => if isSpace c || c == '\n' then skipBreaks rest else cs
  | [] => []

/-- How the run of quotes in front is to be read: as part of the text, or as its end with some
quotes before it. -/
inductive QuoteRun where
  | inside (count : Nat)
  | closing (count : Nat)
  | tooMany

/-- The reading of a run of that many quotes. -/
def QuoteRun.ofCount (n : Nat) : QuoteRun :=
  if n ≤ 2 then .inside n else if n ≤ 5 then .closing (n - 3) else .tooMany

/-- Reads a text that may span lines, between three quotes, behind the opening ones. -/
def longText? (quote : Char) (escapes : Bool) (fuel : Nat) (cs : List Char) :
    Option (List Char × List Char) :=
  match fuel with
  | 0 => none
  | fuel + 1 =>
    let more (front : List Char) (rest : List Char) : Option (List Char × List Char) :=
      (longText? quote escapes fuel rest).map fun (text, behind) => (front ++ text, behind)
    match lineEnd? cs, cs with
    | some rest, _ => more ['\n'] rest
    | none, [] => none
    | none, c :: rest =>
      if c == quote then
        let count := (cs.takeWhile (· == quote)).length
        match QuoteRun.ofCount count with
        | .inside n => more (List.replicate n quote) (cs.drop n)
        | .closing n => some (List.replicate n quote, cs.drop count)
        | .tooMany => none
      else if escapes && c == '\\' then
        match lineEnd? (skip rest) with
        | some behind => more [] (skipBreaks behind)
        | none => do
          let (c, rest) ← escape? rest
          more [c] rest
      else if isTextChar c then more [c] rest
      else none

/-- What follows a line end in front, if there is one. -/
def dropLineEnd (cs : List Char) : List Char := (lineEnd? cs).getD cs

/-- Reads a text in one of its four forms. -/
def text? (cs : List Char) : Option (String × List Char) :=
  let result := match cs with
    | '"' :: '"' :: '"' :: rest => longText? '"' true (rest.length + 1) (dropLineEnd rest)
    | '\'' :: '\'' :: '\'' :: rest => longText? '\'' false (rest.length + 1) (dropLineEnd rest)
    | '"' :: rest => basicText? (rest.length + 1) rest
    | '\'' :: rest => literalText? rest
    | _ => none
  result.map fun (text, behind) => (.ofList text, behind)

/-! ## Integers -/

/-- The value of a digit in the base. -/
def digitValue? (base : Nat) (c : Char) : Option Nat := (Json.hexValue? c).filter (· < base)

/-- The number that the digits denote; single underscores may stand between them. -/
def digitsValue? (base : Nat) : List Char → Nat → Option Nat
  | [], n => some n
  | '_' :: d :: rest, n => do digitsValue? base rest (n * base + (← digitValue? base d))
  | d :: rest, n => do digitsValue? base rest (n * base + (← digitValue? base d))

/-- The number that the digits denote, at least one, the first no underscore. -/
def natural? (base : Nat) (ds : List Char) : Option Nat :=
  match ds with
  | [] => none
  | '_' :: _ => none
  | _ => digitsValue? base ds 0

/-- The number that decimal digits denote; a zero in front stands alone. -/
def decimal? (ds : List Char) : Option Nat :=
  match ds with
  | '0' :: _ :: _ => none
  | _ => natural? 10 ds

/-- The integer that the characters are. -/
def integer? : List Char → Option Int
  | '0' :: 'x' :: ds => (natural? 16 ds).map Int.ofNat
  | '0' :: 'o' :: ds => (natural? 8 ds).map Int.ofNat
  | '0' :: 'b' :: ds => (natural? 2 ds).map Int.ofNat
  | '+' :: ds => (decimal? ds).map Int.ofNat
  | '-' :: ds => (decimal? ds).map fun n => -(n : Int)
  | ds => (decimal? ds).map Int.ofNat

/-! ## Entries -/

/-- Reads the rest of a list of texts behind its bracket or a comma. -/
def texts? (fuel : Nat) (cs : List Char) : Option (List String × List Char) :=
  match fuel with
  | 0 => none
  | fuel + 1 =>
    match skipLines cs.length cs with
    | ']' :: rest => some ([], rest)
    | cs => do
      let (item, behind) ← text? cs
      match skipLines behind.length behind with
      | ']' :: rest => return ([item], rest)
      | ',' :: rest =>
        let (items, behind) ← texts? fuel rest
        return (item :: items, behind)
      | _ => none

/-- Whether the character belongs to a word that is no text. -/
def isWordChar (c : Char) : Bool := c.isAlphanum || c == '_' || c == '+' || c == '-'

/-- Reads a value. -/
def value? (cs : List Char) : Option (Value × List Char) :=
  match cs with
  | '[' :: rest => (texts? cs.length rest).map fun (items, behind) => (.texts items, behind)
  | '"' :: _ => (text? cs).map fun (s, behind) => (.text s, behind)
  | '\'' :: _ => (text? cs).map fun (s, behind) => (.text s, behind)
  | _ =>
    let behind := cs.dropWhile isWordChar
    match cs.takeWhile isWordChar with
    | ['t', 'r', 'u', 'e'] => some (.bool true, behind)
    | ['f', 'a', 'l', 's', 'e'] => some (.bool false, behind)
    | word => (integer? word).map fun n => (.integer n, behind)

/-- Whether the character may stand in a key without quotes. -/
def isKeyChar (c : Char) : Bool := c.isAlphanum || c == '_' || c == '-'

/-- Reads a key. -/
def key? (cs : List Char) : Option (String × List Char) :=
  match cs with
  | '"' :: rest => (basicText? (rest.length + 1) rest).map fun (k, behind) => (.ofList k, behind)
  | '\'' :: rest => (literalText? rest).map fun (k, behind) => (.ofList k, behind)
  | _ =>
    match cs.takeWhile isKeyChar with
    | [] => none
    | k => some (.ofList k, cs.dropWhile isKeyChar)

/-- Reads the entries up to the end of the text. -/
def entries? (fuel : Nat) (cs : List Char) : Option (List (String × Value)) :=
  match fuel with
  | 0 => none
  | fuel + 1 =>
    match skipLines cs.length cs with
    | [] => some []
    | cs => do
      let (key, behind) ← key? cs
      match skip behind with
      | '=' :: rest =>
        let (value, behind) ← value? (skip rest)
        match skipComment behind with
        | [] => return [(key, value)]
        | cs =>
          let entries ← entries? fuel (← lineEnd? cs)
          return (key, value) :: entries
      | _ => none

/-- The entries of the text, whose keys must differ. A byte order mark in front does not count. -/
def read? (s : String) : Option (List (String × Value)) := do
  let cs := match s.toList with
    | '\ufeff' :: rest => rest
    | cs => cs
  let entries ← entries? (cs.length + 1) cs
  if (entries.map (·.1)).Nodup then return entries else none

end TypeFoundry.Toml
