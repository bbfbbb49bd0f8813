import TypeFoundry.Source.Expr
import TypeFoundry.Source.Attribute.Read
import TypeFoundry.Source.Pattern.Read

/-!
# Reading expressions

Expressions and statements are read from tokens. How an item inside a block is read is
given from outside: `item` takes one and answers nothing, since the item is kept as tokens. The number
that the readers take first bounds how deep they call each other.

Binary operators are read by precedence; where a brace would start the body of the enclosing phrase,
no struct expression is read.
-/

set_option autoImplicit false

namespace TypeFoundry.Source.Reader

/-! ## Operators -/

/-- The binary operators with how tightly they bind, those first that others are the beginning of. -/
def binaryOperators : List (String × Nat) :=
  [("+=", 1), ("-=", 1), ("*=", 1), ("/=", 1), ("%=", 1), ("^=", 1), ("&=", 1), ("|=", 1),
   ("<<=", 1), (">>=", 1), ("&&", 4), ("||", 3), ("<<", 10), (">>", 10), ("==", 6), ("<=", 6),
   ("!=", 6), (">=", 6), ("+", 11), ("-", 11), ("*", 12), ("/", 12), ("%", 12), ("^", 8), ("&", 9),
   ("|", 7), ("<", 6), (">", 6)]

/-- How tightly an assignment binds. -/
def assignLevel : Nat := 1

/-- How tightly a range binds. -/
def rangeLevel : Nat := 2

/-- How tightly a comparison binds. -/
def compareLevel : Nat := 6

/-- How tightly a cast binds. -/
def castLevel : Nat := 13

/-- The binary operator that comes next. -/
def binaryOperator? (ts : Tokens) : Option (String × Nat) :=
  binaryOperators.find? fun (text, _) => startsOp text ts

/-- How tightly what comes next binds; `0` if it continues no expression. -/
def nextLevel (ts : Tokens) : Nat :=
  match binaryOperator? ts with
  | some (_, level) => level
  | none =>
    if startsOp "=" ts && !startsOp "=>" ts then assignLevel
    else if startsOp ".." ts then rangeLevel
    else if startsWord "as" ts then castLevel
    else 0

/-- Whether the expression is a comparison. -/
def isComparison : Expr → Bool
  | .binary _ op _ => ["==", "<", "<=", "!=", ">=", ">"].contains op
  | _ => false

/-- Whether the expression is a range. -/
def isRange : Expr → Bool
  | .range .. => true
  | _ => false

/-- Whether the expression ends in a brace of its own and can stand without a comma or semicolon. -/
def isBlockForm : Expr → Bool
  | .cond .. | .select .. | .block .. | .unsafeBlock _ | .while .. | .loop .. | .each ..
  | .constBlock _ => true
  | _ => false

/-- Whether a semicolon has to end the expression where another statement follows. -/
def needsSemicolon : Expr → Bool
  | .invocation _ d _ => d != .brace
  | e => !isBlockForm e

/-! ## Expressions -/

section

variable (item : Reader Unit)

/-- Whether an item starts here rather than an expression. -/
def startsItem (ts : Tokens) : Bool :=
  let next := behind ts
  let word (w : String) : Bool := startsWord w ts
  word "pub" || (word "crate" && !startsOp "::" next) || word "extern" || word "use" ||
    (word "static" && (startsWord "mut" next || startsName next)) ||
    (word "const" && !(startsGroup .brace next || ["static", "async", "move"].any (startsWord · next) ||
      startsOp "|" next)) ||
    (word "unsafe" && !startsGroup .brace next) ||
    (word "async" && ["unsafe", "extern", "fn"].any (startsWord · next)) ||
    ["fn", "mod", "type", "struct", "enum", "trait", "impl", "macro"].any word ||
    (word "union" && startsName next) || (word "auto" && startsWord "trait" next) ||
    (word "default" && ["unsafe", "impl"].any (startsWord · next))

/-- What comes behind a macro's name and its exclamation mark in a statement. -/
inductive MacroUse where
  | none
  /-- A name: the macro defines an item. -/
  | definition
  /-- A brace: the macro is a statement of its own. -/
  | statement

/-- How a macro is used if one is called here. -/
def macroUse (ts : Tokens) : MacroUse :=
  match namePath ts with
  | .ok (_, left) =>
    if !startsOp "!" left then .none
    else
      let next := behind left
      let third := behind next
      if startsName next || startsWord "try" next then .definition
      else if startsGroup .brace next &&
          !((startsOp "." third && !startsOp ".." third) || startsOp "?" third) then .statement
      else .none
  | .error _ => .none

mutual

/-- An expression; struct expressions are read only if `isFree`. -/
def expr : Nat → Bool → Reader Expr
  | 0, _ => stop
  | n + 1, isFree => do
    let e ← unary n isFree
    climb n isFree 0 e

/-- The operators behind an expression that bind at least as tightly as `level`. -/
def climb : Nat → Bool → Nat → Expr → Reader Expr
  | 0, _, _, e => return e
  | n + 1, isFree, level, e => do
    let ts ← rest
    match binaryOperator? ts with
    | some (text, l) =>
      if l < level || (l = assignLevel && isRange e) then return e
      else if l = compareLevel && isComparison e then stop
      else
        operator text
        let right ← operand n isFree l
        climb n isFree level (.binary e text right)
    | none =>
      let l := nextLevel ts
      if l < level || l = 0 || (l = assignLevel && isRange e) then return e
      else if l = assignLevel then
        operator "="
        let right ← operand n isFree l
        climb n isFree level (.assign e right)
      else if l = rangeLevel then
        if isRange e then return e
        else
          let isClosed ← operator? "..="
          if !isClosed then operator ".."
          let upper ← rangeEnd n isFree isClosed
          climb n isFree level (.range (some e) isClosed upper)
      else
        keyword "as"
        let t ← ty (spelled (expr n true) *> pure ()) n false
        climb n isFree level (.cast e t)

/-- The right operand of an operator, with all that binds more tightly. -/
def operand : Nat → Bool → Nat → Reader Expr
  | 0, _, _ => stop
  | n + 1, isFree, level => do
    let e ← unary n isFree
    operandRest n isFree level e

/-- What binds more tightly than the operator in front of an operand. -/
def operandRest : Nat → Bool → Nat → Expr → Reader Expr
  | 0, _, _, e => return e
  | n + 1, isFree, level, e => do
    let next ← nextLevel <$> rest
    if next > level || (next = level && level = assignLevel) then
      let e ← climb n isFree next e
      operandRest n isFree level e
    else return e

/-- The upper end of a range, if there is one. -/
def rangeEnd : Nat → Bool → Bool → Reader (Option Expr)
  | 0, _, _ => stop
  | n + 1, isFree, isClosed => do
    let ts ← rest
    let isOver := ts.isEmpty || [",", ";", "=>"].any (startsOp · ts) ||
      (startsOp "." ts && !startsOp ".." ts) || (!isFree && startsGroup .brace ts)
    if isOver && !isClosed then return none
    else return some (← operand n isFree rangeLevel)

/-- An expression behind prefix operators. -/
def unary : Nat → Bool → Reader Expr
  | 0, _ => stop
  | n + 1, isFree => do
    let ts ← rest
    if startsOp "&" ts then
      operator "&"
      let isMut ← keyword? "mut"
      return .borrow isMut (← unary n isFree)
    else if startsOp "*" ts then
      operator "*"
      return .unary '*' (← unary n isFree)
    else if startsOp "!" ts then
      operator "!"
      return .unary '!' (← unary n isFree)
    else if startsOp "-" ts then
      operator "-"
      return .unary '-' (← unary n isFree)
    else
      let e ← atom n isFree
      trailer n e

/-- Calls, fields, indices and question marks behind an expression. -/
def trailer : Nat → Expr → Reader Expr
  | 0, e => return e
  | n + 1, e => do
    let ts ← rest
    if startsGroup .paren ts then
      let arguments ← group .paren (commaList (expr n true))
      trailer n (.call e arguments.1)
    else if startsGroup .bracket ts then
      let i ← group .bracket (expr n true)
      trailer n (.index e i)
    else if startsOp "?" ts then
      operator "?"
      trailer n (.question e)
    else if startsOp "." ts && !startsOp ".." ts then
      operator "."
      let ts ← rest
      match ts with
      | .word "await" :: _ =>
        keyword "await"
        trailer n (.await e)
      | .literal text :: _ =>
        if Literal.isNumber text then
          let _ ← literal
          let members := (text.splitOn ".").filter (· ≠ "")
          trailer n (members.foldl .field e)
        else stop
      | _ =>
        let a ← name
        let ts ← rest
        let turbofish ←
          if startsOp "::" ts then
            operator "::"
            some <$> angled (expr n true *> pure ()) n
          else pure none
        if turbofish.isSome || (← sees (startsGroup .paren)) then
          let arguments ← group .paren (commaList (expr n true))
          trailer n (.method e a ((turbofish.map (·.1)).getD []) arguments.1)
        else trailer n (.field e a)
    else return e

/-- An expression that no operator is part of. -/
def atom : Nat → Bool → Reader Expr
  | 0, _ => stop
  | n + 1, isFree => do
    let ts ← rest
    let next := behind ts
    if startsLiteral ts then return .literal (← literal)
    else if startsWord "async" ts && (startsGroup .brace next ||
        (startsWord "move" next && startsGroup .brace (behind next))) then
      keyword "async"
      let isMove ← keyword? "move"
      return .asyncBlock isMove (← block n)
    else if startsOp "|" ts || startsWord "move" ts || startsWord "async" ts then closure n isFree
    else if startsOp "<" ts then
      let (self, rooted, through, tail) ← projection (expr n true *> pure ()) n true
      return .projection self rooted through tail
    else if startsPath ts || startsWord "try" ts then pathExpr n isFree
    else if startsGroup .paren ts then
      group .paren do
        let (elems, comma) ← commaList (expr n true)
        match elems with
        | [e] => if comma then return .tuple [e] else return .paren e
        | elems => return .tuple elems
    else if startsGroup .bracket ts then
      group .bracket do
        if ← isDone then return .array []
        else
          let first ← expr n true
          if ← operator? ";" then return .repeated first (← expr n true)
          else if ← operator? "," then
            let (others, _) ← commaList (expr n true)
            return .array (first :: others)
          else return .array [first]
    else if ← keyword? "break" then
      let label ← if ← sees startsLifetime then some <$> lifetime else pure none
      return .leave label (← optional n isFree)
    else if ← keyword? "continue" then
      return .next (← if ← sees startsLifetime then some <$> lifetime else pure none)
    else if ← keyword? "return" then return .give (← optional n isFree)
    else if ← keyword? "let" then
      let p ← patternAlternatives (expr n true *> pure ()) n
      operator "="
      let first ← unary n false
      return .letTest p (← operandRest n false 4 first)
    else if startsLifetime ts then
      let label ← lifetime
      operator ":"
      labelled n (some label)
    else if ["while", "for", "loop"].any (startsWord · ts) || startsGroup .brace ts then labelled n none
    else if ← keyword? "if" then conditional n
    else if ← keyword? "match" then
      let subject ← expr n false
      return .select subject (← group .brace (many (arm n)))
    else if ← keyword? "unsafe" then return .unsafeBlock (← block n)
    else if ← keyword? "const" then return .constBlock (← block n)
    else if startsOp ".." ts then
      let isClosed ← operator? "..="
      if !isClosed then operator ".."
      return .range none isClosed (← rangeEnd n isFree isClosed)
    else if ← keyword? "_" then return .infer
    else stop

/-- The value behind `break` or `return`, if there is one. -/
def optional : Nat → Bool → Reader (Option Expr)
  | 0, _ => stop
  | n + 1, isFree => do
    let ts ← rest
    if ts.isEmpty || [",", ";", "=>"].any (startsOp · ts) || (!isFree && startsGroup .brace ts) then
      return none
    else return some (← expr n isFree)

/-- A loop or block behind its label. -/
def labelled : Nat → Option String → Reader Expr
  | 0, _ => stop
  | n + 1, label => do
    if ← keyword? "while" then
      let test ← expr n false
      return .while label test (← block n)
    else if ← keyword? "for" then
      let p ← patternAlternatives (expr n true *> pure ()) n
      keyword "in"
      let source ← expr n false
      return .each label p source (← block n)
    else if ← keyword? "loop" then return .loop label (← block n)
    else return .block label (← block n)

/-- A conditional behind its `if`. -/
def conditional : Nat → Reader Expr
  | 0 => stop
  | n + 1 => do
    let test ← expr n false
    let yes ← block n
    if ← keyword? "else" then
      if ← keyword? "if" then return .cond test yes (some (← conditional n))
      else return .cond test yes (some (.block none (← block n)))
    else return .cond test yes none

/-- A closure. -/
def closure : Nat → Bool → Reader Expr
  | 0, _ => stop
  | n + 1, isFree => do
    let isAsync ← keyword? "async"
    let isMove ← keyword? "move"
    let params ←
      if ← operator? "||" then pure []
      else do
        operator "|"
        if ← operator? "|" then pure []
        else do
          let (params, _) ← listUntil (startsOp "|") "," (parameter n) n
          operator "|"
          pure params
    if ← operator? "->" then
      let out ← ty (expr n true *> pure ()) n true
      return .closure isAsync isMove params (some out) (.block none (← block n))
    else return .closure isAsync isMove params none (← expr n isFree)

/-- A parameter of a closure. -/
def parameter : Nat → Reader Pattern
  | 0 => stop
  | n + 1 => do
    let p ← pattern (expr n true *> pure ()) n
    if ← operator? ":" then return .typed p (← ty (expr n true *> pure ()) n true)
    else return p

/-- A path, a macro call or a struct expression. -/
def pathExpr : Nat → Bool → Reader Expr
  | 0, _ => stop
  | n + 1, isFree => do
    let (rooted, segments) ← path (expr n true *> pure ()) n true
    let p : Path := ⟨rooted, segments⟩
    let ts ← rest
    let isPlain := segments.all fun | .plain _ => true | _ => false
    if isPlain && startsOp "!" ts && !startsOp "!=" ts then
      operator "!"
      let (d, arguments) ← anyGroup
      return .invocation p d arguments
    else if isFree && startsGroup .brace ts then
      let (fields, base) ← group .brace (fieldInits n)
      return .record p fields base
    else return .path p

/-- The fields of a struct expression, and the expression behind two dots that gives the others. -/
def fieldInits : Nat → Reader (List FieldInit × Option Expr)
  | 0 => stop
  | n + 1 => do
    if ← isDone then return ([], none)
    else if ← operator? ".." then return ([], some (← expr n true))
    else
      let a ← memberName
      let value ← if ← operator? ":" then some <$> expr n true else pure none
      if ← isDone then return ([.mk a value], none)
      else
        operator ","
        let (others, base) ← fieldInits n
        return (.mk a value :: others, base)

/-- An arm of a `match`. -/
def arm : Nat → Reader Arm
  | 0 => stop
  | n + 1 => do
    let attrs ← outerAttributes (expr n true *> pure ())
    let p ← patternAlternatives (expr n true *> pure ()) n
    let guard ← if ← keyword? "if" then some <$> expr n true else pure none
    operator "=>"
    let body ← early n
    if !isBlockForm body && !(← isDone) then operator ","
    else
      let _ ← operator? ","
    return .mk attrs p guard body

/-- An expression where a statement or an arm may end behind a closing brace. -/
def early : Nat → Reader Expr
  | 0 => stop
  | n + 1 => do
    let ts ← rest
    let next := behind ts
    if ["if", "while", "for", "loop", "match", "unsafe"].any (startsWord · ts) ||
        (startsWord "const" ts && startsGroup .brace next) || startsGroup .brace ts ||
        startsLifetime ts then
      let e ← atom n true
      let ts ← rest
      if (startsOp "." ts && !startsOp ".." ts) || startsOp "?" ts then
        let e ← trailer n e
        climb n true 0 e
      else return e
    else expr n true

/-- The statements of a block in braces. -/
def block : Nat → Reader Block
  | 0 => stop
  | n + 1 => group .brace (stmts n)

/-- Statements until nothing is left. -/
def stmts : Nat → Reader Block
  | 0 => stop
  | n + 1 => do
    if ← isDone then return []
    else if ← operator? ";" then return .empty :: (← stmts n)
    else
      let s ← stmt n
      let isOpen :=
        match s with
        | .expr e false => needsSemicolon e
        | .invocation _ _ d _ false => d != .brace
        | _ => false
      if isOpen && !(← isDone) then stop
      return s :: (← stmts n)

/-- A statement. -/
def stmt : Nat → Reader Stmt
  | 0 => stop
  | n + 1 => do
    let start ← rest
    let attrs ← outerAttributes (expr n true *> pure ())
    let ts ← rest
    match macroUse ts with
    | .statement =>
      let p ← namePath
      operator "!"
      let (d, arguments) ← anyGroup
      return .invocation attrs (.ofNames p.rooted p.names) d arguments (← operator? ";")
    | .definition =>
      set start
      return .item (← spelled item).2
    | .none =>
      if startsItem ts then
        set start
        return .item (← spelled item).2
      else if ← keyword? "let" then
        let p ← parameter n
        let value ← if ← operator? "=" then some <$> expr n true else pure none
        let otherwise ←
          if value.isSome && (← keyword? "else") then (some ∘ .block none) <$> block n
          else pure none
        operator ";"
        return .bind attrs p value otherwise
      else
        let e ← early n
        let isClosed ← operator? ";"
        match e with
        | .invocation p d arguments =>
          if isClosed || d = .brace then return .invocation attrs p d arguments isClosed
          else return .expr e false
        | e => return .expr e isClosed

end

/-- Takes an expression and answers nothing. -/
def constant : Reader Unit := fun ts => (expr item (depth ts) true *> pure ()) ts

end

end TypeFoundry.Source.Reader
