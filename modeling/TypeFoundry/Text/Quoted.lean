import TypeFoundry.Text.Printable

/-!
# Quoted text

A quoted text stands between double quotes. Control characters with a short escape use it, quotes
and backslashes are escaped, and a character that is not shown as it is is written by its code
point in hexadecimal.
-/

set_option autoImplicit false

namespace TypeFoundry.Text

/-- The code point in braces, in lower-case hexadecimal. -/
def codePointEscape (c : Char) : List Char :=
  ['\\', 'u', '{'] ++ Nat.toDigits 16 c.toNat ++ ['}']

/-- How one character is written between double quotes. -/
def escaped (c : Char) : List Char :=
  match c with
  | '\x00' => ['\\', '0']
  | '\t' => ['\\', 't']
  | '\n' => ['\\', 'n']
  | '\r' => ['\\', 'r']
  | '"' => ['\\', '"']
  | '\\' => ['\\', '\\']
  | c => if isExtender c || !isPrintable c then codePointEscape c else [c]

/-- The text between double quotes, for messages. -/
def quoted (s : String) : String :=
  .ofList ('"' :: s.toList.flatMap escaped ++ ['"'])

/-- The characters of a string literal. A NUL before an octal digit is spelled out, so that it does
not read as a longer escape. -/
def literalBody : List Char → List Char
  | [] => []
  | c :: cs =>
    let here :=
      if c = '\x00' && (cs.head?.any fun d => '0' ≤ d && d ≤ '7') then ['\\', 'x', '0', '0']
      else escaped c
    here ++ literalBody cs

/-- The string literal that denotes the text. -/
def stringLiteral (s : String) : String :=
  .ofList ('"' :: literalBody s.toList ++ ['"'])

end TypeFoundry.Text
