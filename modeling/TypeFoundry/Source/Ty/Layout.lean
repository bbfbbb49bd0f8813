import TypeFoundry.Source.Ty
import TypeFoundry.Source.Token.Layout

/-!
# The layout of types

A type is laid out as a box per list between delimiters. How a constant inside a type is laid out is
given from outside, since constants are expressions.
-/

set_option autoImplicit false

namespace TypeFoundry.Source

open Layout

/-- The layout of a lifetime. -/
def lifetimeLayout (name : String) : Doc := word ("'" ++ name)

/-- The layout of a lifetime parameter with its bounds. -/
def LifetimeParam.layout (p : LifetimeParam) : Doc :=
  lifetimeLayout p.name ++
    if p.bounds.isEmpty then [] else word ": " ++ separated (word " + ") (p.bounds.map lifetimeLayout)

/-- The layout of `for` with the lifetimes that it introduces. -/
def binderLayout : Option (List LifetimeParam) → Doc
  | none => []
  | some params => word "for<" ++ separated (word ", ") (params.map (·.layout)) ++ word "> "

/-- The layout of `extern` with the name of the calling convention. -/
def abiLayout : Option (Option String) → Doc
  | none => []
  | some none => word "extern "
  | some (some name) => word "extern " ++ word name ++ nbsp

/-- The layout of a path of plain names. -/
def namesLayout (rooted : Bool) (names : List String) : Doc :=
  (if rooted then word "::" else []) ++ separated (word "::") (names.map word)

/-- Documents marked as lifetimes come first; the comma list is closed behind the last one. -/
def lifetimesFirst (parts : List (Bool × Doc)) : List Doc :=
  (parts.filter (·.1) ++ parts.filter (!·.1)).map (·.2)

section

variable (constant : Tokens → Doc)

mutual

/-- The layout of a type. -/
def Ty.layout : Ty → Doc
  | .path rooted segments =>
    (if rooted then word "::" else []) ++ separated (word "::") (segmentsLayout false segments)
  | .projection self rooted through tail =>
    word "<" ++ self.layout ++
      (match segmentsLayout false through with
      | [] => []
      | parts => word " as " ++ (if rooted then word "::" else []) ++ separated (word "::") parts) ++
      word ">" ++ (segmentsLayout false tail).flatMap (word "::" ++ ·)
  | .tuple elems _ =>
    match listLayout elems with
    | [one] => word "(" ++ cbox indent (zerobreak 0 ++ one ++ word "," ++ zerobreak (-indent)) ++ word ")"
    | parts => enclosed "(" ")" indent parts
  | .paren inner => word "(" ++ inner.layout ++ word ")"
  | .array elem length => word "[" ++ elem.layout ++ word "; " ++ constant length ++ word "]"
  | .slice elem => word "[" ++ elem.layout ++ word "]"
  | .reference lifetime isMut target =>
    word "&" ++ (match lifetime with | some name => lifetimeLayout name ++ nbsp | none => []) ++
      (if isMut then word "mut " else []) ++ target.layout
  | .pointer isMut target => word "*" ++ word (if isMut then "mut " else "const ") ++ target.layout
  | .function binder isUnsafe abi names params _ output =>
    binderLayout binder ++ (if isUnsafe then word "unsafe " else []) ++ abiLayout abi ++
      enclosed "fn(" ")" indent (List.zipWith (fun name part =>
        match name with
        | some name => word name ++ word ": " ++ part
        | none => part) names (listLayout params)) ++
      outputLayout output
  | .never => word "!"
  | .infer => word "_"
  | .object _ bounds => word "dyn " ++ separated (word " + ") (boundsLayout bounds)
  | .impls bounds => word "impl " ++ separated (word " + ") (boundsLayout bounds)
  | .invocation rooted names d arguments =>
    namesLayout rooted names ++ word "!" ++ argumentsLayout d arguments

/-- The layout of each type of a list. -/
def listLayout : List Ty → List Doc
  | [] => []
  | t :: ts => t.layout :: listLayout ts

/-- The layout of the result type of a function. -/
def outputLayout : Option Ty → Doc
  | none => []
  | some t => word " -> " ++ t.layout

/-- The layout of a segment; in an expression two colons stand before its arguments. -/
def Segment.layout (isExpr : Bool) : Segment → Doc
  | .plain name => word name
  | .angled name _ arguments _ =>
    let parts := lifetimesFirst (genericsLayout arguments)
    word name ++
      if parts.isEmpty then []
      else (if isExpr then word "::" else []) ++ enclosed "<" ">" indent parts
  | .call name inputs _ output =>
    word name ++ cbox indent (enclosedHere "(" ")" (listLayout inputs) ++ outputLayout output)

/-- The layout of each segment of a list. -/
def segmentsLayout (isExpr : Bool) : List Segment → List Doc
  | [] => []
  | s :: ss => s.layout isExpr :: segmentsLayout isExpr ss

/-- The layout of an argument. -/
def GenericArg.layout : GenericArg → Doc
  | .lifetime name => lifetimeLayout name
  | .type t => t.layout
  | .const value => constant value
  | .binding target t => target.layout false ++ word " = " ++ t.layout
  | .constBinding target value => target.layout false ++ word " = " ++ constant value
  | .constraint target bounds =>
    target.layout false ++
      ibox indent (match boundsLayout bounds with
        | [] => []
        | parts => word ": " ++ separated (space 0 ++ word "+ ") parts)

/-- The layout of each argument of a list, with whether it is a lifetime. -/
def genericsLayout : List GenericArg → List (Bool × Doc)
  | [] => []
  | a :: as => (a.isLifetime, a.layout) :: genericsLayout as

/-- The layout of a bound. -/
def Bound.layout : Bound → Doc
  | .lifetime name => lifetimeLayout name
  | .trait isParen isMaybe binder rooted segments =>
    (if isParen then word "(" else []) ++ (if isMaybe then word "?" else []) ++ binderLayout binder ++
      (if rooted then word "::" else []) ++
      separated (word "::") (segmentsLayout false segments) ++ (if isParen then word ")" else [])

/-- The layout of each bound of a list. -/
def boundsLayout : List Bound → List Doc
  | [] => []
  | b :: bs => b.layout :: boundsLayout bs

end

/-- The layout of a path in an expression. -/
def Path.layout (p : Path) : Doc :=
  (if p.rooted then word "::" else []) ++
    separated (word "::") (segmentsLayout constant true p.segments)

end

end TypeFoundry.Source
