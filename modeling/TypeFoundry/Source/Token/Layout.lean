import TypeFoundry.Source.Token
import TypeFoundry.Layout.Doc

/-!
# The layout of tokens

The arguments of a macro have no known structure. They are laid out token by token; whether a blank
stands before a token depends on what kind of place the tokens before it have led to.
-/

set_option autoImplicit false

namespace TypeFoundry.Source

open Layout

/-- The kind of place that tokens lead to. -/
inductive Spot where
  | start
  | dollar
  | dollarWord
  | dollarWordColon
  | dollarParen
  | dollarParenSep
  | pound
  | poundBang
  | dot
  | colon
  | twoColons
  | word
  | wordBang
  | delimited
  | other
  deriving DecidableEq

/-- Words that a macro's tokens treat as part of the language, not as names. -/
def fixedWords : List String :=
  ["as", "async", "await", "box", "break", "const", "continue", "crate", "dyn", "else", "enum",
   "extern", "fn", "for", "if", "impl", "in", "let", "loop", "macro", "match", "mod", "move", "mut",
   "pub", "ref", "return", "static", "struct", "trait", "type", "unsafe", "use", "where", "while",
   "yield"]

/-- Whether the delimiter is not a brace. -/
def Delimiter.isTight : Delimiter → Bool
  | .brace => false
  | _ => true

/-- Whether a blank belongs before the token at the given place, and the place behind it; in a
`matcher` the tokens are the pattern of a macro's rule. -/
def Spot.next (isMatcher : Bool) : Spot → TokenTree → Bool × Spot
  | .dollar, .word _ => (false, if isMatcher then .dollarWord else .other)
  | .dollarWord, .mark ':' false => (false, .dollarWordColon)
  | .dollarWordColon, .word _ => (false, .other)
  | .dollarParen, .mark c isJoint =>
    if isJoint then (false, .dollarParen)
    else if c == '+' || c == '*' || c == '?' then (false, .other)
    else (false, .dollarParenSep)
  | .dollarParen, .word _ => (false, .dollarParenSep)
  | .dollarParen, .literal _ => (false, .dollarParenSep)
  | .dollar, .group .paren _ => (false, .dollarParen)
  | .pound, .group .bracket _ => (false, .other)
  | .poundBang, .group .bracket _ => (false, .other)
  | spot, .group d _ =>
    if !d.isTight then (true, .other)
    else if spot = .word then (false, .delimited)
    else if spot = .wordBang then (false, .other)
    else (true, .delimited)
  | spot, .word w =>
    if fixedWords.contains w then (true, .other)
    else (spot != .dot && spot != .twoColons, .word)
  | spot, .literal text => (spot != .dot, if text.endsWith "." then .other else .word)
  | spot, .mark c isJoint =>
    if spot = .dollarParenSep && (c == '+' || c == '*') then (false, .other)
    else if spot = .pound && c == '!' then (false, .poundBang)
    else if spot = .word && c == '!' && !isJoint then (false, .wordBang)
    else if spot = .colon && c == ':' then (false, .twoColons)
    else if c == ',' || c == ';' then (false, .other)
    else if c == '.' && !isMatcher then (spot != .word && spot != .delimited, .dot)
    else if c == ':' && isJoint then (spot != .word, .colon)
    else if c == '$' then (true, .dollar)
    else if c == '#' then (true, .pound)
    else (true, .other)

/-- Whether the token always touches the next one. -/
def TokenTree.touchesNext : TokenTree → Bool
  | .mark c isJoint => isJoint || c == '$'
  | _ => false

/-- What stands before a token. -/
def TokenTree.gap (t : TokenTree) (isBlank : Bool) : Doc :=
  if isBlank then space 0
  else
    match t with
    | .mark '.' _ => zerobreak 0
    | _ => []

mutual

/-- The layout of one token. -/
def TokenTree.layout (isMatcher : Bool) : TokenTree → Doc
  | .word name => Layout.word name
  | .mark c _ => Layout.word c.toString
  | .literal text => Layout.word text
  | .group d inner =>
    Layout.word d.opener.toString ++
      (if inner.isEmpty then []
      else if d.isTight then layoutFrom isMatcher .start true inner
      else space 0 ++ layoutFrom isMatcher .start true inner ++ space 0) ++
      Layout.word d.closer.toString

/-- The layout of tokens at the given place; `isJoined` if the first touches what is before it. -/
def layoutFrom (isMatcher : Bool) (spot : Spot) (isJoined : Bool) : List TokenTree → Doc
  | [] => []
  | t :: ts =>
    let (isBlank, next) := spot.next isMatcher t
    (if isJoined then [] else t.gap isBlank) ++ t.layout isMatcher ++
      layoutFrom isMatcher next t.touchesNext ts

end

/-- The layout of the tokens that a macro is given. -/
def tokensLayout (isMatcher : Bool) (ts : Tokens) : Doc := layoutFrom isMatcher .start true ts

/-- The layout of the arguments of a macro in their delimiters. -/
def argumentsLayout (d : Delimiter) (ts : Tokens) : Doc :=
  let ends (offset : Int) : Doc := if d.isTight then zerobreak offset else hardbreak offset
  Layout.word ((if d.isTight then "" else " ") ++ d.opener.toString) ++
    (if ts.isEmpty then []
    else cbox indent (ends 0 ++ ibox 0 (tokensLayout false ts) ++ ends (-indent))) ++
    Layout.word d.closer.toString

end TypeFoundry.Source
