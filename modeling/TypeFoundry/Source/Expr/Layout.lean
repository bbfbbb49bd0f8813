import TypeFoundry.Source.Expr
import TypeFoundry.Source.Attribute.Layout
import TypeFoundry.Source.Pattern.Layout

/-!
# The layout of expressions

An expression is laid out as boxes that follow its structure. In a chain of fields and method calls
each link may start a line. How an item inside a block and a constant inside a type are laid out is
given from outside.
-/

set_option autoImplicit false

namespace TypeFoundry.Source

open Layout

/-- How phrases are laid out that are kept as tokens. -/
structure Inner where
  constant : Tokens → Doc
  item : Tokens → List Line

namespace Expr

/-- Whether the expression is a name of at most four bytes, which a method call stays next to. -/
def isShortName : Expr → Bool
  | .path p =>
    match p.name? with
    | some name => name.utf8ByteSize ≤ 4
    | none => false
  | _ => false

/-- Whether the expression may be the only argument of a call without a box of its own. -/
def isBlocklike : Expr → Bool
  | .array _ | .asyncBlock .. | .block .. | .closure .. | .constBlock _ | .record .. | .tuple _
  | .unsafeBlock _ => true
  | _ => false

/-- Whether the body of the statement starts a line where the condition is broken. -/
def wrapsCondition : Expr → Bool
  | .assign .. | .await _ | .binary .. | .cast .. | .field .. | .index .. | .method .. => true
  | .leave _ (some e) => e.wrapsCondition
  | .call f _ => f.wrapsCondition
  | .letTest _ e => e.wrapsCondition
  | .paren e => e.wrapsCondition
  | .range _ _ (some e) => e.wrapsCondition
  | .borrow _ e => e.wrapsCondition
  | .give (some e) => e.wrapsCondition
  | .question e => e.wrapsCondition
  | .unary _ e => e.wrapsCondition
  | _ => false

/-- Whether the expression ends in a brace of its own, so that it can end a statement or an arm. -/
def endsItself : Expr → Bool
  | .cond .. | .select .. | .block .. | .unsafeBlock _ | .while .. | .loop .. | .each ..
  | .constBlock _ => true
  | _ => false

/-- Whether the expression may stand as a statement. -/
def canBeStatement : Expr → Bool
  | .assign e _ => !e.endsItself && e.canBeStatement
  | .await e => !e.endsItself && e.canBeStatement
  | .binary e _ _ => !e.endsItself && e.canBeStatement
  | .call e _ => !e.endsItself && e.canBeStatement
  | .cast e _ => !e.endsItself && e.canBeStatement
  | .field e _ => !e.endsItself && e.canBeStatement
  | .index e _ => !e.endsItself && e.canBeStatement
  | .method e _ _ _ => !e.endsItself && e.canBeStatement
  | .question e => !e.endsItself && e.canBeStatement
  | .range (some e) _ _ => !e.endsItself && e.canBeStatement
  | _ => true

/-- Whether the operator assigns. -/
def isAssignment (op : String) : Bool :=
  ["+=", "-=", "*=", "/=", "%=", "^=", "&=", "|=", "<<=", ">>="].contains op

/-- Whether a semicolon is written behind the expression where none was. -/
def gainsSemicolon : Expr → Bool
  | .assign .. | .leave .. | .next _ | .give _ => true
  | .binary _ op _ => isAssignment op
  | _ => false

/-- Whether a semicolon behind the expression is left out. -/
def losesSemicolon : Expr → Bool
  | .each .. | .while .. => true
  | .cond _ _ none => true
  | .cond _ _ (some e) => e.losesSemicolon
  | _ => false

/-- Whether all elements are short literals. -/
def areSimple (elems : List Expr) : Bool :=
  elems.all fun
    | .literal text => Literal.isSimple text || text == "true" || text == "false"
    | _ => false

end Expr

/-- The layout of the label in front of a loop or block. -/
def labelLayout : Option String → Doc
  | some name => lifetimeLayout name ++ word ": "
  | none => []

/-- What a chain is appended to is laid out less deep than its links. -/
def link (isLink : Bool) (d : Doc) : Doc := if isLink then cbox (-indent) d else d

/-- A condition or subject, laid out as `d`, in front of a brace. -/
def condition (e : Expr) (d : Doc) : Doc := cbox 0 (d ++ if e.wrapsCondition then space 0 else nbsp)

/-- An expression, laid out as `d`, that gets braces where it does not fit. -/
def bracedWhereBroken (e : Expr) (d : Doc) : Doc :=
  let isStmt := e.canBeStatement
  cbox indent ([.break ⟨0, 0, "", if isStmt then "\x7b" else "(", "", false⟩] ++ d ++
    [.break ⟨-indent, 0, "", if isStmt && e.gainsSemicolon then ";" else "",
      if isStmt then "\x7d" else ")", false⟩])

/-- The body of an arm, laid out as `d`, that gets braces where it does not fit. -/
def bracedArm (e : Expr) (d : Doc) : Doc :=
  let isStmt := e.canBeStatement
  neverbreak ++ cbox indent ([.break ⟨0, 0, "", if isStmt then "\x7b" else "(", "", false⟩] ++ d ++
    [.break ⟨-indent, 0, if e.endsItself then "" else ",",
      if isStmt && e.gainsSemicolon then ";" else "", if isStmt then "\x7d" else "),", false⟩])

/-- Braces around lines, in the box of the caller. -/
def fullBlock (lines : List Line) : Doc := word "\x7b" ++ bodyLines lines ++ word "\x7d"

/-- Braces around lines, with a box of their own. -/
def braced (lines : List Line) : Doc :=
  word "\x7b" ++ neverbreak ++ cbox indent (bodyLines lines) ++ word "\x7d"

section

variable (inner : Inner)

mutual

/-- The layout of an expression: `isStart` if it starts a line, `isLink` if it is what a link of a
chain is appended to. -/
def Expr.layout (isStart isLink : Bool) : Expr → Doc
  | .await e =>
    let core := e.layout isStart true ++
      (if isStart && e.isShortName then [] else zerobreak 0) ++ word ".await"
    if isLink then core else cbox indent core
  | .field e member =>
    let core := e.layout isStart true ++
      (if isStart && e.isShortName then [] else zerobreak 0) ++ word "." ++ word member
    if isLink then core else cbox indent core
  | .method receiver name turbofish arguments =>
    let isNear := isStart && receiver.isShortName
    let generics := lifetimesFirst (genericsLayout inner.constant turbofish)
    let core := receiver.layout isStart true ++ (if isNear then [] else zerobreak 0) ++ word "." ++
      word name ++ (if generics.isEmpty then [] else enclosed "::<" ">" indent generics) ++
      cbox (if isNear && !isLink then -indent else 0) (callLayout arguments)
    if isLink then core else cbox indent core
  | .call f arguments => f.layout (isStart && !isLink) isLink ++ callLayout arguments
  | .index e i => e.layout isStart isLink ++ word "[" ++ i.layout false false ++ word "]"
  | .question e => e.layout isStart isLink ++ word "?"
  | .literal text => link isLink (word text)
  | .path p => link isLink (p.layout inner.constant)
  | .projection self rooted through tail =>
    link isLink (word "<" ++ self.layout inner.constant ++
      (match segmentsLayout inner.constant false through with
      | [] => []
      | parts => word " as " ++ (if rooted then word "::" else []) ++ separated (word "::") parts) ++
      word ">" ++ (segmentsLayout inner.constant true tail).flatMap (word "::" ++ ·))
  | .infer => link isLink (word "_")
  | .invocation p d arguments =>
    link isLink (p.layout inner.constant ++ word "!" ++ argumentsLayout d arguments)
  | .unary op e => link isLink (word op.toString ++ e.layout false false)
  | .borrow isMut e =>
    link isLink (word "&" ++ (if isMut then word "mut " else []) ++ e.layout false false)
  | .binary left op right =>
    link isLink (ibox indent (ibox (-indent) (left.layout false false) ++ space 0 ++ word op ++ nbsp ++
      right.layout false false))
  | .assign left right =>
    link isLink (ibox 0 (left.layout false false ++ word " = " ++ neverbreak ++
      right.layout false false))
  | .cast e t =>
    link isLink (ibox indent (ibox (-indent) (e.layout false false) ++ space 0 ++ word "as " ++
      t.layout inner.constant))
  | .range lower isClosed upper =>
    link isLink (optionLayout lower ++ word (if isClosed then "..=" else "..") ++ optionLayout upper)
  | .paren e => link isLink (word "(" ++ e.layout false false ++ word ")")
  | .tuple elems =>
    link isLink
      (match exprsLayout elems with
      | [one] =>
        word "(" ++ cbox indent (zerobreak 0 ++ one ++ word "," ++ zerobreak (-indent)) ++ word ")"
      | parts => enclosed "(" ")" indent parts)
  | .array elems =>
    link isLink
      (if elems.isEmpty then word "[]"
      else if Expr.areSimple elems then
        cbox indent (word "[" ++ zerobreak 0 ++
          ibox 0 (separated (word "," ++ space 0) (exprsLayout elems)) ++ commaBreak (-indent) 0 ++
          word "]")
      else enclosed "[" "]" indent (exprsLayout elems))
  | .repeated e length =>
    link isLink (word "[" ++ e.layout false false ++ word "; " ++ length.layout false false ++ word "]")
  | .record p fields base =>
    let head := ibox (-indent) (p.layout inner.constant) ++ word " \x7b"
    let parts := initsLayout fields
    let body :=
      match base with
      | some e =>
        space 0 ++ parts.flatMap (· ++ word "," ++ space 0) ++ word ".." ++ e.layout false false ++
          space (-indent)
      | none =>
        if parts.isEmpty then (if flatWidth head + 1 > 34 then space (-indent) else [.mark])
        else space 0 ++ commaList parts (-indent) 1
    link isLink (cboxUpTo 34 indent (head ++ body) ++ word "\x7d")
  | .block label body => link isLink (labelLayout label ++ cbox indent (smallBlock body))
  | .unsafeBlock body => link isLink (word "unsafe " ++ cbox indent (smallBlock body))
  | .constBlock body => link isLink (word "const " ++ cbox indent (smallBlock body))
  | .asyncBlock isMove body =>
    link isLink (word "async " ++ (if isMove then word "move " else []) ++
      cbox indent (smallBlock body))
  | .cond test yes no =>
    link isLink (cbox indent (word "if " ++ cbox (-indent) (condition test (test.layout false false)) ++
      (match no with
      | some e => smallBlock yes ++ otherwise (e.layout true false) e
      | none => if yes.isEmpty then word "\x7b\x7d" else fullBlock (stmtsLines yes))))
  | .letTest pattern e =>
    link isLink (ibox 0 (word "let " ++ ibox 0 (pattern.layout inner.constant) ++ word " = " ++
      neverbreak ++ ibox 0 (e.layout false false)))
  | .while label test body =>
    link isLink (labelLayout label ++ word "while " ++ condition test (test.layout false false) ++ braced (stmtsLines body))
  | .loop label body =>
    link isLink (labelLayout label ++ word "loop \x7b" ++ cbox indent (bodyLines (stmtsLines body)) ++
      word "\x7d")
  | .each label pattern source body =>
    link isLink (ibox 0 (labelLayout label ++ word "for " ++ pattern.layout inner.constant ++
      word " in " ++ neverbreak ++ condition source (source.layout false false) ++ braced (stmtsLines body)))
  | .select subject arms =>
    link isLink (ibox 0 (word "match " ++ condition subject (subject.layout false false) ++ word "\x7b" ++ neverbreak ++
      cbox indent (bodyLines (armsLines arms)) ++ word "\x7d"))
  | .closure isAsync isMove params output body =>
    let head := (if isAsync then word "async " else []) ++ (if isMove then word "move " else [])
    let parts := params.map (·.layout inner.constant)
    let start := if parts.isEmpty then [] else zerobreak 0
    let list := separated (word "," ++ space 0) parts
    match output with
    | none =>
      link isLink (ibox 0 (head ++ cbox indent (word "|" ++ start ++ list ++ word "|" ++
        space (-indent)) ++ neverbreak ++
        (if body.isBlocklike || (match body with | .call .. => true | .select .. => true | _ => false)
        then body.layout false false else bracedWhereBroken body (body.layout false false))))
    | some t =>
      link isLink (ibox 0 (head ++ cbox indent (word "|" ++ start ++ list ++
        (if parts.isEmpty then [] else commaBreak (-indent) 0) ++ word "|") ++ word " -> " ++
        t.layout inner.constant ++ nbsp ++ neverbreak ++ body.layout false false))
  | .give value =>
    link isLink (word "return" ++ (match value with | some e => nbsp ++ e.layout false false | none => []))
  | .leave label value =>
    link isLink (word "break" ++ (match label with | some a => nbsp ++ lifetimeLayout a | none => []) ++
      (match value with | some e => nbsp ++ e.layout false false | none => []))
  | .next label =>
    link isLink (word "continue" ++
      (match label with | some a => nbsp ++ lifetimeLayout a | none => []))

/-- The layout of an expression that may be missing. -/
def optionLayout : Option Expr → Doc
  | none => []
  | some e => e.layout false false

/-- The layout of each expression of a list. -/
def exprsLayout : List Expr → List Doc
  | [] => []
  | e :: es => e.layout false false :: exprsLayout es

/-- The layout of the arguments of a call in their parentheses. -/
def callLayout : List Expr → Doc
  | [] => word "()"
  | [e] =>
    if e.isBlocklike then word "(" ++ e.layout false false ++ word ")"
    else enclosed "(" ")" indent [e.layout false false]
  | e :: es => enclosed "(" ")" indent (e.layout false false :: exprsLayout es)

/-- The layout of what follows `else`; anything but a block or condition, laid out as `d`, gets
braces. -/
def otherwise (d : Doc) : Expr → Doc
  | .cond test yes no =>
    word " else " ++ word "if " ++ cbox (-indent) (condition test (test.layout false false)) ++ smallBlock yes ++
      (match no with
      | some e => otherwise (e.layout true false) e
      | none => [])
  | .block _ body => word " else " ++ smallBlock body
  | _ => word " else " ++ word "\x7b" ++ space 0 ++ ibox indent d ++ space (-indent) ++ word "\x7d"

/-- The layout of each field of a struct expression. -/
def initsLayout : List FieldInit → List Doc
  | [] => []
  | .mk member value :: fs =>
    (word member ++ (match value with
      | some e => word ": " ++ ibox 0 (e.layout false false)
      | none => [])) :: initsLayout fs

/-- The layout of a block in the box of the caller: on one line if it is one expression that fits. -/
def smallBlock : List Stmt → Doc
  | [] => word "\x7b\x7d"
  | [.expr e false] =>
    word "\x7b" ++ space 0 ++ ibox 0 (e.layout true false) ++ space (-indent) ++ word "\x7d"
  | s :: ss =>
    word "\x7b" ++ space 0 ++ innerLines (s.lines ss.isEmpty ++ stmtsLines ss) ++ word "\x7d"

/-- The lines of the arms of a `match`. -/
def armsLines : List Arm → List Line
  | [] => []
  | .mk attrs pattern guard body :: arms =>
    outerLines inner.constant attrs ++
      .whole (ibox 0 (pattern.layout inner.constant ++
        (match guard with | some e => word " if " ++ e.layout false false | none => []) ++
        word " => " ++ armBody (body.layout body.canBeStatement false) body)) ::
      armsLines arms

/-- The layout of the body of an arm, where anything but a block is laid out as `d`. -/
def armBody (d : Doc) : Expr → Doc
  | .block none [.expr e false] => armBody (e.layout e.canBeStatement false) e
  | .block label body => labelLayout label ++ braced (stmtsLines body)
  | .tuple [] => braced []
  | e => bracedArm e d

/-- The lines of a statement. -/
def Stmt.lines (isLast : Bool) : Stmt → List Line
  | .bind attrs pattern value otherwise =>
    outerLines inner.constant attrs ++
      [.whole (match value with
        | none => ibox 0 (word "let " ++ pattern.layout inner.constant ++ word ";")
        | some e =>
          let start := word "let " ++ pattern.layout inner.constant ++ word " = " ++ neverbreak ++
            e.layout false false
          match otherwise with
          | none => ibox 0 (start ++ word ";")
          | some (.block _ body) =>
            ibox 0 (start ++ space 0 ++ word "else ") ++ neverbreak ++
              cbox indent (smallBlock body ++ word ";")
          | some _ => ibox 0 (start ++ word ";"))]
  | .item tokens => inner.item tokens
  | .expr e true =>
    [.whole (ibox 0 (e.layout true false ++ if e.losesSemicolon then [] else word ";"))]
  | .expr e false =>
    [.whole (ibox 0 (e.layout true false ++ if e.gainsSemicolon then word ";" else []))]
  | .invocation attrs p d arguments isClosed =>
    let isEnded := (isClosed || !isLast) && d.isTight
    outerLines inner.constant attrs ++
      [.whole (p.layout inner.constant ++ word "!" ++ argumentsLayout d arguments ++
        if isEnded then word ";" else [])]
  | .empty => []

/-- The lines of statements. -/
def stmtsLines : List Stmt → List Line
  | [] => []
  | s :: ss => s.lines ss.isEmpty ++ stmtsLines ss

end

end

end TypeFoundry.Source
