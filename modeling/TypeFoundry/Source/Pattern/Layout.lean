import TypeFoundry.Source.Pattern
import TypeFoundry.Source.Ty.Layout

/-!
# The layout of patterns

Patterns are laid out like the expressions that they look like.
-/

set_option autoImplicit false

namespace TypeFoundry.Source

open Layout

/-- Whether the pattern is a single token. -/
def Pattern.isShort : Pattern → Bool
  | .literal _ => true
  | .wild => true
  | _ => false

section

variable (constant : Tokens → Doc)

mutual

/-- The layout of a pattern. -/
def Pattern.layout : Pattern → Doc
  | .wild => word "_"
  | .rest => word ".."
  | .binding isRef isMut name sub =>
    (if isRef then word "ref " else []) ++ (if isMut then word "mut " else []) ++ word name ++
      (match sub with | some p => word " @ " ++ p.layout | none => [])
  | .literal text => word text
  | .path p => p.layout constant
  | .range lower isClosed upper =>
    (match lower with | some p => p.layout | none => []) ++
      word (if isClosed then "..=" else "..") ++
      (match upper with | some p => p.layout | none => [])
  | .reference isMut p => word "&" ++ (if isMut then word "mut " else []) ++ p.layout
  | .tuple elems _ =>
    match patternsLayout elems with
    | [one] => word "(" ++ cbox indent (zerobreak 0 ++ one ++ word "," ++ zerobreak (-indent)) ++ word ")"
    | parts => enclosed "(" ")" indent parts
  | .paren p => word "(" ++ p.layout ++ word ")"
  | .slice elems => word "[" ++ commaList (patternsLayout elems) 0 0 ++ word "]"
  | .variant p elems => p.layout constant ++ enclosed "(" ")" indent (patternsLayout elems)
  | .record p fields isOpen =>
    let parts := fieldPatternsLayout fields
    cbox indent (p.layout constant ++ word " \x7b" ++
      (if parts.isEmpty && !isOpen then [.mark]
      else if isOpen then
        space 0 ++ parts.flatMap (· ++ word "," ++ space 0) ++ word ".." ++ space (-indent)
      else space 0 ++ commaList parts (-indent) 1)) ++ word "\x7d"
  | .alternatives _ choices =>
    let body := separated (space 0 ++ word "| ") (patternsLayout choices)
    if choices.all Pattern.isShort then ibox 0 body else cbox 0 body
  | .typed p t => p.layout ++ word ": " ++ t.layout constant

/-- The layout of each pattern of a list. -/
def patternsLayout : List Pattern → List Doc
  | [] => []
  | p :: ps => p.layout :: patternsLayout ps

/-- The layout of a field of a struct pattern. -/
def FieldPattern.layout : FieldPattern → Doc
  | .mk (some member) p => word member ++ word ": " ++ p.layout
  | .mk none p => p.layout

/-- The layout of each field of a struct pattern. -/
def fieldPatternsLayout : List FieldPattern → List Doc
  | [] => []
  | f :: fs => f.layout :: fieldPatternsLayout fs

end

end

end TypeFoundry.Source
