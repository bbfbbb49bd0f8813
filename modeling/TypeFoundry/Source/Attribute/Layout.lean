import TypeFoundry.Source.Attribute
import TypeFoundry.Source.Literal
import TypeFoundry.Source.Ty.Layout

/-!
# The layout of attributes

An attribute that holds documentation or a comment is written as one where its text allows that; any
other stands in brackets. The arguments of an attribute are laid out token by token.
-/

set_option autoImplicit false

namespace TypeFoundry.Source

open Layout

mutual

/-- The layout of one token of an attribute's arguments. -/
def TokenTree.argLayout : TokenTree → Doc
  | .word name => word name
  | .mark c _ => word c.toString
  | .literal text => word text
  | .group .paren inner =>
    word "(" ++ cbox indent (zerobreak 0 ++ argsLayout true false inner) ++ word ")"
  | .group d inner =>
    word d.opener.toString ++ argsLayout false false inner ++ word d.closer.toString

/-- The layout of the tokens of an attribute's arguments; in parentheses the last break stands less
deep, and `isBehindWord` says whether a word stands before the tokens. -/
def argsLayout (isParen : Bool) (isBehindWord : Bool) : List TokenTree → Doc
  | [] => if isParen then zerobreak (-indent) else []
  | .mark ',' j :: ts =>
    if ts.isEmpty then commaBreak (if isParen then -indent else 0) 0
    else (TokenTree.mark ',' j).argLayout ++ space 0 ++ argsLayout isParen false ts
  | .mark c j :: ts =>
    (if isBehindWord && c == '=' then nbsp else []) ++ (TokenTree.mark c j).argLayout ++
      (if c == '=' then nbsp else []) ++ argsLayout isParen false ts
  | .group d inner :: ts => (TokenTree.group d inner).argLayout ++ argsLayout isParen false ts
  | t :: ts => (if isBehindWord then space 0 else []) ++ t.argLayout ++ argsLayout isParen true ts

end

/-- The layout of the path of an attribute. -/
def NamePath.layout (p : NamePath) : Doc := namesLayout p.rooted p.names

/-- The text without the blanks at its end. -/
def trimEnd (s : String) : String := .ofList (s.toList.reverse.dropWhile (· == ' ')).reverse

/-- The text with the blanks removed at the end of every line but the last. -/
def trimLineEnds (s : String) : String :=
  let lines := s.splitOn "\n"
  "\n".intercalate (lines.dropLast.map trimEnd ++ lines.drop (lines.length - 1))

/-- Whether comment delimiters match in the text, `depth` of them being open. -/
def commentsMatch : Nat → List Char → Bool
  | depth, '/' :: '*' :: cs => commentsMatch (depth + 1) cs
  | depth, '*' :: '/' :: cs => depth != 0 && commentsMatch (depth - 1) cs
  | depth, _ :: cs => commentsMatch depth cs
  | depth, [] => depth == 0

/-- The comment that an attribute with the text as its value is written as, if it can be. -/
def commentLayout (isInner : Bool) (path : NamePath) (text : String) : Option Doc :=
  let starts (c : Char) : Bool := text.toList.head? == some c
  let isLine := !text.toList.contains '\n'
  if path == ⟨false, ["doc"]⟩ then
    if isLine && (isInner || !starts '/') then
      some (word (if isInner then "//!" else "///") ++ word (trimEnd text))
    else if commentsMatch 0 text.toList && (isInner || !(starts '*' || starts '/')) then
      some (word (if isInner then "/*!" else "/**") ++ word (trimLineEnds text) ++ word "*/")
    else none
  else if path == ⟨false, ["comment"]⟩ then
    if isLine then some (word "//" ++ word (trimEnd text))
    else if commentsMatch 0 text.toList && !(starts '*' || starts '!') then
      some (word "/*" ++ word (trimLineEnds text) ++ word "*/")
    else none
  else none

section

variable (constant : Tokens → Doc)

/-- The layout of what stands in the brackets of an attribute. -/
def Meta.layout : Meta → Doc
  | .flag path => path.layout
  | .call path d arguments => path.layout ++ (TokenTree.group d arguments).argLayout
  | .value path tokens => path.layout ++ word " = " ++ constant tokens

/-- The comment that the attribute is written as, if it can be. -/
def Attribute.comment? (a : Attribute) : Option Doc :=
  match a.content with
  | .value path [.literal written] =>
    (Literal.textValue? written).bind fun text => commentLayout a.inner path text
  | _ => none

/-- The line of an attribute. -/
def Attribute.line (a : Attribute) : Line :=
  match a.comment? with
  | some d => .whole d
  | none => ⟨word (if a.inner then "#![" else "#[") ++ a.content.layout constant ++ word "]", 1⟩

/-- The lines of the attributes that belong to what follows them. -/
def outerLines (attrs : List Attribute) : List Line :=
  (attrs.filter (!·.inner)).map (·.line constant)

/-- The lines of the attributes that belong to what encloses them. -/
def innerAttributeLines (attrs : List Attribute) : List Line :=
  (attrs.filter (·.inner)).map (·.line constant)

end

end TypeFoundry.Source
