import TypeFoundry.Source.Token
import TypeFoundry.Source.Keyword
import TypeFoundry.Text.Blank
import TypeFoundry.Text.Identifier
import TypeFoundry.Text.Quoted

/-!
# Scanning

`scan` cuts source text into lexemes. Blanks and comments separate lexemes and are dropped; a
documentation comment becomes the attribute that it stands for. Delimiters have to match. A text
that cannot be scanned is answered by what is left of it at the offending place: the character that
starts no lexeme, the closing delimiter that matches nothing, or the innermost opening delimiter
that is never closed.

Functions on characters take what is left of the text and answer what is left behind the piece that
they recognise, or `none` if the text does not start with such a piece.
-/

set_option autoImplicit false

namespace TypeFoundry.Source.Scan

open Text

/-- What follows the given beginning. -/
def after? (start : String) (cs : List Char) : Option (List Char) :=
  if start.toList.isPrefixOf cs then some (cs.drop start.length) else none

/-- Whether the characters start with the given text. -/
def startsWith (cs : List Char) (start : String) : Bool := start.toList.isPrefixOf cs

/-- The part of the text before what is left of it. -/
def before (cs rest : List Char) : List Char := cs.take (cs.length - rest.length)

/-! ## Blanks and comments -/

/-- Whether the character separates lexemes: white space or a direction mark. -/
def isSeparator (c : Char) : Bool := isBlank c || c == '\u200e' || c == '\u200f'

/-- The end of a block comment; block comments nest, and `depth` of them are open. -/
def blockEnd : Nat → List Char → Option (List Char)
  | depth, '/' :: '*' :: cs => blockEnd (depth + 1) cs
  | depth, '*' :: '/' :: cs => if depth ≤ 1 then some cs else blockEnd (depth - 1) cs
  | depth, _ :: cs => blockEnd depth cs
  | _, [] => none

/-- The rest of the line and what follows it, a line feed first unless the text ends. -/
def restOfLine : List Char → List Char × List Char
  | [] => ([], [])
  | '\n' :: cs => ([], '\n' :: cs)
  | '\r' :: '\n' :: cs => ([], '\n' :: cs)
  | c :: cs => let (line, rest) := restOfLine cs; (c :: line, rest)

/-- Whether a line comment starts here that is no documentation. -/
def isLineComment (cs : List Char) : Bool :=
  startsWith cs "//" && (!startsWith cs "///" || startsWith cs "////") && !startsWith cs "//!"

/-- Whether a block comment starts here that is no documentation. -/
def isBlockComment (cs : List Char) : Bool :=
  startsWith cs "/**/" ||
    (startsWith cs "/*" && (!startsWith cs "/**" || startsWith cs "/***") && !startsWith cs "/*!")

/-- What is left after blanks and comments, of which at most `fuel` are skipped. -/
def skip : Nat → List Char → List Char
  | 0, cs => cs
  | _, [] => []
  | fuel + 1, c :: cs =>
    if isSeparator c then skip fuel cs
    else if isLineComment (c :: cs) then skip fuel (restOfLine (c :: cs)).2
    else if isBlockComment (c :: cs) then
      match blockEnd 0 (c :: cs) with
      | some rest => skip fuel rest
      | none => c :: cs
    else c :: cs

/-- What is left after all blanks and comments in front. -/
def skipBlanks (cs : List Char) : List Char := skip cs.length cs

/-- Whether every carriage return is followed by a line feed. -/
def noBareReturn : List Char → Bool
  | [] => true
  | '\r' :: '\n' :: cs => noBareReturn cs
  | c :: cs => c != '\r' && noBareReturn cs

/-- The text of a documentation comment, whether it documents what encloses it, and the rest. -/
def docComment (cs : List Char) : Option (List Char × Bool × List Char) :=
  let block (inner : Bool) : Option (List Char × Bool × List Char) := do
    let rest ← blockEnd 0 cs
    let body := (before cs rest).drop 3
    some (body.take (body.length - 2), inner, rest)
  let found :=
    if startsWith cs "//!" then
      let (line, rest) := restOfLine (cs.drop 3)
      some (line, true, rest)
    else if startsWith cs "/*!" then block true
    else if startsWith cs "///" && !startsWith cs "////" then
      let (line, rest) := restOfLine (cs.drop 3)
      some (line, false, rest)
    else if startsWith cs "/**" && !startsWith cs "/***" then block false
    else none
  found.filter fun (text, _, _) => noBareReturn text

/-- The attribute that a documentation comment stands for. -/
def docLexemes (text : List Char) (inner : Bool) : List Lexeme :=
  [.mark '#' false] ++ (if inner then [.mark '!' false] else []) ++
    [.opening .bracket, .word "doc", .mark '=' false, .literal (stringLiteral (.ofList text)),
     .closing .bracket]

/-! ## Words and marks -/

/-- A word that is not raw. -/
def plainWord (cs : List Char) : Option (List Char × List Char) :=
  match cs with
  | [] => none
  | c :: tail =>
    if Identifier.isStart c then
      some (c :: tail.takeWhile Identifier.isContinue, tail.dropWhile Identifier.isContinue)
    else none

/-- A word, raw or not. -/
def anyWord (cs : List Char) : Option (String × List Char) :=
  match after? "r#" cs with
  | some tail => do
    let (w, rest) ← plainWord tail
    if neverRaw.contains (String.ofList w) then none else some (.ofList ('r' :: '#' :: w), rest)
  | none => (plainWord cs).map fun (w, rest) => (.ofList w, rest)

/-- Beginnings that belong to string literals and never to words. -/
def literalStarts : List String :=
  ["r\"", "r#\"", "r##", "b\"", "b'", "br\"", "br#", "c\"", "cr\"", "cr#"]

/-- A word where no string literal starts. -/
def word (cs : List Char) : Option (String × List Char) :=
  if literalStarts.any (startsWith cs) then none else anyWord cs

/-- The punctuation marks. -/
def marks : List Char := "~!@#$%^&*-=+|;:,<.>/?'".toList

/-- A punctuation mark that starts no comment. -/
def markChar (cs : List Char) : Option (Char × List Char) :=
  if startsWith cs "//" || startsWith cs "/*" then none
  else
    match cs with
    | c :: rest => if marks.contains c then some (c, rest) else none
    | [] => none

/-- A mark; an apostrophe is one only where it starts a lifetime. -/
def mark (cs : List Char) : Option (Lexeme × List Char) := do
  let (c, rest) ← markChar cs
  if c = '\'' then
    let (_, tail) ← anyWord rest
    if startsWith tail "'" || (startsWith tail "#" && !startsWith rest "r#") then none
    else some (.mark '\'' true, rest)
  else some (.mark c (markChar rest).isSome, rest)

/-! ## Literals -/

/-- What is left after the suffix of a literal, if it has one. -/
def skipSuffix (cs : List Char) : List Char :=
  match plainWord cs with
  | some (_, rest) => rest
  | none => cs

/-- The value of a hexadecimal digit. -/
def hexValue? (c : Char) : Option Nat :=
  if c.isDigit then some (c.toNat - '0'.toNat)
  else if 'a' ≤ c && c ≤ 'f' then some (c.toNat - 'a'.toNat + 10)
  else if 'A' ≤ c && c ≤ 'F' then some (c.toNat - 'A'.toNat + 10)
  else none

/-- The code point between the braces of an escape and what follows them: one to six digits, with
underscores anywhere after the first. -/
def bracedDigits : Nat → Nat → List Char → Option (Nat × List Char)
  | _, _, [] => none
  | count, value, c :: cs =>
    match hexValue? c with
    | some d => if count = 6 then none else bracedDigits (count + 1) (value * 16 + d) cs
    | none =>
      if count = 0 then none
      else if c = '_' then bracedDigits count value cs
      else if c = '}' then some (value, cs)
      else none

/-- The character that the braces of an escape name. -/
def bracedChar (cs : List Char) : Option (Nat × List Char) := do
  let tail ← after? "\x7b" cs
  let (n, rest) ← bracedDigits 0 0 tail
  if n.isValidChar then some (n, rest) else none

/-- What is left after the blanks behind a backslash at the end of a line, whose line end `last` has
just been read. -/
def skipContinuation : Char → List Char → Option (List Char)
  | '\r', '\n' :: cs => skipContinuation '\n' cs
  | '\r', _ => none
  | _, [] => none
  | _, c :: cs =>
    if c = ' ' || c = '\t' || c = '\n' then skipContinuation '\n' cs
    else if c = '\r' then skipContinuation '\r' cs
    else some (c :: cs)

/-- The three alphabets of quoted literals. -/
inductive Alphabet where
  | text
  | bytes
  | nulFree
  deriving DecidableEq

/-- What is left after the two digits of a numeric escape. -/
def hexEscape (a : Alphabet) : List Char → Option (List Char)
  | c :: d :: cs => do
    let x ← hexValue? c
    let y ← hexValue? d
    match a with
    | .text => if x < 8 then some cs else none
    | .bytes => some cs
    | .nulFree => if x = 0 && y = 0 then none else some cs
  | _ => none

/-- Whether a character may stand unescaped in a literal. -/
def Alphabet.admits (a : Alphabet) (c : Char) : Bool :=
  match a with
  | .text => true
  | .bytes => c.toNat < 128
  | .nulFree => c != '\x00'

/-- What is left after a backslash and the escape that it starts. -/
def escape (a : Alphabet) : List Char → Option (List Char)
  | 'x' :: cs => hexEscape a cs
  | 'u' :: cs =>
    if a = .bytes then none
    else do
      let (n, rest) ← bracedChar cs
      if a = .nulFree && n = 0 then none else some rest
  | '0' :: cs => if a = .nulFree then none else some cs
  | c :: cs => if ['n', 'r', 't', '\\', '\'', '"'].contains c then some cs else none
  | [] => none

/-- What is left after the closing quote of a string; at most `fuel` characters are read. -/
def cookedEnd (a : Alphabet) : Nat → List Char → Option (List Char)
  | 0, _ => none
  | _, [] => none
  | _, '"' :: cs => some cs
  | fuel + 1, '\r' :: '\n' :: cs => cookedEnd a fuel cs
  | _, '\r' :: _ => none
  | fuel + 1, '\\' :: '\n' :: cs => (skipContinuation '\n' cs).bind (cookedEnd a fuel)
  | fuel + 1, '\\' :: '\r' :: cs => (skipContinuation '\r' cs).bind (cookedEnd a fuel)
  | fuel + 1, '\\' :: cs => (escape a cs).bind (cookedEnd a fuel)
  | fuel + 1, c :: cs => if a.admits c then cookedEnd a fuel cs else none

/-- A string literal behind its opening quote. -/
def cooked (a : Alphabet) (cs : List Char) : Option (List Char) :=
  (cookedEnd a cs.length cs).map skipSuffix

/-- What is left after the quote and the hashes that close a raw string. -/
def rawEnd (a : Alphabet) (hashes : List Char) : List Char → Option (List Char)
  | [] => none
  | '"' :: cs =>
    if hashes.isPrefixOf cs then some (cs.drop hashes.length)
    else rawEnd a hashes cs
  | '\r' :: '\n' :: cs => rawEnd a hashes cs
  | c :: cs => if c != '\r' && a.admits c then rawEnd a hashes cs else none

/-- A raw string literal behind its letters. -/
def raw (a : Alphabet) (cs : List Char) : Option (List Char) := do
  let hashes := cs.takeWhile (· == '#')
  let tail ← after? "\"" (cs.dropWhile (· == '#'))
  if hashes.length > 255 then none else (rawEnd a hashes tail).map skipSuffix

/-- A string literal of the alphabet with the letter in front. -/
def stringOf (a : Alphabet) (letter : String) (cs : List Char) : Option (List Char) :=
  match after? (letter ++ "\"") cs with
  | some tail => cooked a tail
  | none => (after? (letter ++ "r") cs).bind (raw a)

/-- A character or byte literal behind its opening quote. -/
def quotedChar (a : Alphabet) (cs : List Char) : Option (List Char) := do
  let rest ←
    match cs with
    | '\\' :: tail => escape a tail
    | c :: tail => if a.admits c then some tail else none
    | [] => none
  let tail ← after? "'" rest
  some (skipSuffix tail)

/-- What is left after the suffix of a number, where no further word may follow. -/
def numberEnd (cs : List Char) : Option (List Char) :=
  let rest := skipSuffix cs
  match rest with
  | c :: _ => if Identifier.isContinue c then none else some rest
  | [] => some rest

/-- Whether the character is a decimal digit or an underscore. -/
def isDigitOrGap (c : Char) : Bool := c.isDigit || c == '_'

/-- The exponent of a number behind its letter. -/
def exponent (cs : List Char) : Option (List Char) :=
  let lead := cs.dropWhile (· == '_')
  let tail := if startsWith lead "+" || startsWith lead "-" then lead.drop 1 else lead
  if (tail.takeWhile isDigitOrGap).any Char.isDigit then some (tail.dropWhile isDigitOrGap) else none

/-- A number with a fraction or an exponent. A point is a fraction unless a word or another point
follows; an exponent without digits counts only towards the suffix. -/
def floatDigits (cs : List Char) : Option (List Char) :=
  match cs with
  | c :: _ =>
    if !c.isDigit then none
    else
      let rest := cs.dropWhile isDigitOrGap
      match rest with
      | '.' :: tail =>
        if (tail.head?.any fun d => d == '.' || Identifier.isStart d) then none
        else
          let frac := tail.dropWhile isDigitOrGap
          match frac with
          | e :: ex => if e = 'e' || e = 'E' then (exponent ex).or (some frac) else some frac
          | [] => some frac
      | e :: ex => if e = 'e' || e = 'E' then exponent ex else none
      | [] => none
  | [] => none

/-- The digits of a whole number behind the mark of its base. A digit too large for the base is
refused if it is a decimal digit and ends the number otherwise. -/
def digitsIn (base : Nat) : Bool → List Char → Option (List Char)
  | empty, [] => if empty then none else some []
  | empty, c :: cs =>
    if c = '_' then
      if empty && base = 10 then none else digitsIn base empty cs
    else
      match hexValue? c with
      | some d =>
        if d < base then digitsIn base false cs
        else if c.isDigit then none
        else if empty then none else some (c :: cs)
      | none => if empty then none else some (c :: cs)

/-- A whole number in one of the four bases. -/
def intDigits (cs : List Char) : Option (List Char) :=
  match after? "0x" cs with
  | some tail => digitsIn 16 true tail
  | none =>
    match after? "0o" cs with
    | some tail => digitsIn 8 true tail
    | none =>
      match after? "0b" cs with
      | some tail => digitsIn 2 true tail
      | none => digitsIn 10 true cs

/-- What is left after a literal. -/
def literalEnd (cs : List Char) : Option (List Char) :=
  (stringOf .text "" cs)
    |>.or (stringOf .bytes "b" cs)
    |>.or (stringOf .nulFree "c" cs)
    |>.or ((after? "b'" cs).bind (quotedChar .bytes))
    |>.or ((after? "'" cs).bind (quotedChar .text))
    |>.or ((floatDigits cs).bind numberEnd)
    |>.or ((intDigits cs).bind numberEnd)

/-- A lexeme that is no delimiter. -/
def leaf (cs : List Char) : Option (Lexeme × List Char) :=
  match literalEnd cs with
  | some rest => some (.literal (.ofList (before cs rest)), rest)
  | none =>
    match mark cs with
    | some found => some found
    | none => (word cs).map fun (w, rest) => (.word w, rest)

/-! ## Lexemes in order -/

/-- A lexeme and the text that starts with it. -/
structure Placed where
  lexeme : Lexeme
  here : List Char

/-- The delimiter that the character opens. -/
def opening? (c : Char) : Option Delimiter :=
  [Delimiter.paren, .brace, .bracket].find? (·.opener == c)

/-- The delimiter that the character closes. -/
def closing? (c : Char) : Option Delimiter :=
  [Delimiter.paren, .brace, .bracket].find? (·.closer == c)

/-- The lexemes of the text; `stack` holds the delimiters that are open, innermost first, each with
the text that starts with it. -/
def lexemes : Nat → List (Delimiter × List Char) → List Char → Except (List Char) (List Placed)
  | 0, _, cs => .error cs
  | fuel + 1, stack, text =>
    let cs := skipBlanks text
    match docComment cs with
    | some (comment, inner, rest) =>
      (lexemes fuel stack rest).map ((docLexemes comment inner).map (⟨·, cs⟩) ++ ·)
    | none =>
      match cs with
      | [] =>
        match stack with
        | [] => .ok []
        | (_, here) :: _ => .error here
      | c :: tail =>
        match opening? c with
        | some d => (lexemes fuel ((d, cs) :: stack) tail).map (⟨.opening d, cs⟩ :: ·)
        | none =>
          match closing? c with
          | some d =>
            match stack with
            | (e, _) :: outer =>
              if e = d then (lexemes fuel outer tail).map (⟨.closing d, cs⟩ :: ·)
              else .error cs
            | [] => .error cs
          | none =>
            match leaf cs with
            | some (lexeme, rest) => (lexemes fuel stack rest).map (⟨lexeme, cs⟩ :: ·)
            | none => .error cs

/-- The text without a byte order mark in front. -/
def dropMark (cs : List Char) : List Char :=
  match cs with
  | '\ufeff' :: rest => rest
  | _ => cs

end Scan

/-- The lexemes of the text with their places, or the text from the offending place on. -/
def scan (cs : List Char) : Except (List Char) (List Scan.Placed) :=
  Scan.lexemes (cs.length + 1) [] (Scan.dropMark cs)

/-- Adds one lexeme in front of token trees; the head of the stack holds the trees that follow it up
to the next closing delimiter, the rest those behind each delimiter still to be opened. -/
def plant (l : Lexeme) (stack : List Tokens) : List Tokens :=
  match l, stack with
  | .closing _, stack => [] :: stack
  | .opening d, inner :: outer :: stack => (.group d inner :: outer) :: stack
  | .word w, top :: stack => (.word w :: top) :: stack
  | .mark c j, top :: stack => (.mark c j :: top) :: stack
  | .literal t, top :: stack => (.literal t :: top) :: stack
  | _, stack => stack

/-- The token trees of lexemes whose delimiters match. -/
def trees (ls : List Lexeme) : Tokens := ((ls.foldr plant [[]]).head?).getD []

/-- The token trees of the text, if it can be scanned. -/
def tokens? (s : String) : Option Tokens :=
  match scan s.toList with
  | .ok placed => some (trees (placed.map (·.lexeme)))
  | .error _ => none

end TypeFoundry.Source
