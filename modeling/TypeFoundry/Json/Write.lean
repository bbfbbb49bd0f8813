import TypeFoundry.Json
import TypeFoundry.Text.Hexadecimal

/-!
# Writing JSON

`Json.compact` writes a value without blanks; `Json.pretty` gives every item and member a line of
its own, two more blanks in for every level. A character is escaped only if it has to be: the quote,
the backslash and the control characters.
-/

set_option autoImplicit false

namespace TypeFoundry.Json

/-- How one character is written in a string. -/
def escaped (c : Char) : List Char :=
  match c with
  | '"' => ['\\', '"']
  | '\\' => ['\\', '\\']
  | '\x08' => ['\\', 'b']
  | '\x0c' => ['\\', 'f']
  | '\n' => ['\\', 'n']
  | '\r' => ['\\', 'r']
  | '\t' => ['\\', 't']
  | c => if c.toNat < 0x20 then '\\' :: 'u' :: Text.hexDigits 4 c.toNat else [c]

/-- The text as a string; a string without text is written as half of a pair. -/
def writtenText : Option String → List Char
  | some s => '"' :: s.toList.flatMap escaped ++ ['"']
  | none => ['"', '\\', 'u', 'd', '8', '0', '0', '"']

mutual

/-- The characters of the value, without blanks. -/
def written : Json → List Char
  | .null => ['n', 'u', 'l', 'l']
  | .bool true => ['t', 'r', 'u', 'e']
  | .bool false => ['f', 'a', 'l', 's', 'e']
  | .natural n => Nat.toDigits 10 n
  | .number text => text.toList
  | .string text => writtenText text
  | .array items => '[' :: writtenItems items ++ [']']
  | .object members => '{' :: writtenMembers members ++ ['}']

/-- The items with commas between them. -/
def writtenItems : List Json → List Char
  | [] => []
  | [last] => written last
  | item :: next :: items => written item ++ ',' :: writtenItems (next :: items)

/-- The members with commas between them. -/
def writtenMembers : List (Option String × Json) → List Char
  | [] => []
  | [(key, value)] => writtenText key ++ ':' :: written value
  | (key, value) :: next :: members =>
    writtenText key ++ ':' :: written value ++ ',' :: writtenMembers (next :: members)

end

/-- The value in one line without blanks. -/
def compact (j : Json) : String := .ofList (written j)

/-- The start of a line at the given depth. -/
def newLine (depth : Nat) : List Char := '\n' :: List.replicate (2 * depth) ' '

mutual

/-- The characters of the value, over several lines, inside `depth` levels. -/
def spread (depth : Nat) : Json → List Char
  | .array [] => ['[', ']']
  | .array (item :: items) =>
    '[' :: newLine (depth + 1) ++ spread (depth + 1) item ++ spreadItems depth items ++
      newLine depth ++ [']']
  | .object [] => ['{', '}']
  | .object ((key, value) :: members) =>
    '{' :: newLine (depth + 1) ++ writtenText key ++ ':' :: ' ' :: spread (depth + 1) value ++
      spreadMembers depth members ++ newLine depth ++ ['}']
  | .null => ['n', 'u', 'l', 'l']
  | .bool true => ['t', 'r', 'u', 'e']
  | .bool false => ['f', 'a', 'l', 's', 'e']
  | .natural n => Nat.toDigits 10 n
  | .number text => text.toList
  | .string text => writtenText text

/-- The further items, each behind a comma and on a new line. -/
def spreadItems (depth : Nat) : List Json → List Char
  | [] => []
  | item :: items =>
    ',' :: newLine (depth + 1) ++ spread (depth + 1) item ++ spreadItems depth items

/-- The further members, each behind a comma and on a new line. -/
def spreadMembers (depth : Nat) : List (Option String × Json) → List Char
  | [] => []
  | (key, value) :: members =>
    ',' :: newLine (depth + 1) ++ writtenText key ++ ':' :: ' ' :: spread (depth + 1) value ++
      spreadMembers depth members

end

/-- The value over several lines. -/
def pretty (j : Json) : String := .ofList (spread 0 j)

end TypeFoundry.Json
