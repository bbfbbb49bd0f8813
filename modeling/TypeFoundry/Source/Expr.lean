import TypeFoundry.Source.Attribute
import TypeFoundry.Source.Pattern

/-!
# Expressions

Expressions and statements, as they stand in the bodies of functions and behind the equals
sign of constants. An item inside a block is kept as its tokens.
-/

set_option autoImplicit false

namespace TypeFoundry.Source

mutual

/-- An expression. -/
inductive Expr where
  | literal (text : String)
  | path (p : Path)
  | projection (self : Ty) (rooted : Bool) (through : List Segment) (tail : List Segment)
  | infer
  | invocation (p : Path) (d : Delimiter) (arguments : List TokenTree)
  | unary (op : Char) (e : Expr)
  | borrow (isMut : Bool) (e : Expr)
  | binary (left : Expr) (op : String) (right : Expr)
  | assign (left right : Expr)
  | cast (e : Expr) (t : Ty)
  | range (lower : Option Expr) (isClosed : Bool) (upper : Option Expr)
  | call (f : Expr) (arguments : List Expr)
  | method (receiver : Expr) (name : String) (turbofish : List GenericArg) (arguments : List Expr)
  | field (e : Expr) (member : String)
  | index (e i : Expr)
  | question (e : Expr)
  | await (e : Expr)
  | paren (e : Expr)
  | tuple (elems : List Expr)
  | array (elems : List Expr)
  | repeated (e length : Expr)
  | record (p : Path) (fields : List FieldInit) (base : Option Expr)
  | block (label : Option String) (body : List Stmt)
  | unsafeBlock (body : List Stmt)
  | constBlock (body : List Stmt)
  | asyncBlock (isMove : Bool) (body : List Stmt)
  | cond (test : Expr) (yes : List Stmt) (no : Option Expr)
  | letTest (pattern : Pattern) (e : Expr)
  | while (label : Option String) (test : Expr) (body : List Stmt)
  | loop (label : Option String) (body : List Stmt)
  | each (label : Option String) (pattern : Pattern) (source : Expr) (body : List Stmt)
  | select (subject : Expr) (arms : List Arm)
  | closure (isAsync : Bool) (isMove : Bool) (params : List Pattern) (output : Option Ty)
      (body : Expr)
  | give (value : Option Expr)
  | leave (label : Option String) (value : Option Expr)
  | next (label : Option String)

/-- A field of a struct expression; without a value it takes the variable of its name. -/
inductive FieldInit where
  | mk (member : String) (value : Option Expr)

/-- An arm of a `match`. -/
inductive Arm where
  | mk (attrs : List Attribute) (pattern : Pattern) (guard : Option Expr) (body : Expr)

/-- A statement. An expression is closed if a semicolon ends it. -/
inductive Stmt where
  | bind (attrs : List Attribute) (pattern : Pattern) (value : Option Expr)
      (otherwise : Option Expr)
  | item (tokens : List TokenTree)
  | expr (e : Expr) (isClosed : Bool)
  | invocation (attrs : List Attribute) (p : Path) (d : Delimiter) (arguments : List TokenTree)
      (isClosed : Bool)
  | empty

end

/-- The statements of a block. -/
abbrev Block := List Stmt

instance : Inhabited Expr := ⟨.infer⟩

end TypeFoundry.Source
