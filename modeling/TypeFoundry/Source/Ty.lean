import TypeFoundry.Source.Token

/-!
# Types

Types, the paths that name them, and the bounds on them. Names are kept as written, raw identifiers
with their `r#`, lifetimes without their apostrophe. A list remembers whether it ends in a comma, so
that a type knows its own tokens: `Ty.tokens`. Constants inside types, such as the length of an
array, are kept as tokens.
-/

set_option autoImplicit false

namespace TypeFoundry.Source

/-- A lifetime that `for` or a parameter list introduces, with the lifetimes that it outlives. -/
structure LifetimeParam where
  name : String
  bounds : List String
  deriving DecidableEq

mutual

/-- A type. -/
inductive Ty where
  | path (rooted : Bool) (segments : List Segment)
  /-- A path behind a type in angle brackets, with the trait that the path goes through, if any. -/
  | projection (self : Ty) (rooted : Bool) (through : List Segment) (tail : List Segment)
  | tuple (elems : List Ty) (comma : Bool)
  | paren (inner : Ty)
  | array (elem : Ty) (length : List TokenTree)
  | slice (elem : Ty)
  | reference (lifetime : Option String) (isMut : Bool) (target : Ty)
  | pointer (isMut : Bool) (target : Ty)
  | function (binder : Option (List LifetimeParam)) (isUnsafe : Bool)
      (abi : Option (Option String)) (names : List (Option String)) (params : List Ty)
      (comma : Bool) (output : Option Ty)
  | never
  | infer
  | object (isDyn : Bool) (bounds : List Bound)
  | impls (bounds : List Bound)
  | invocation (rooted : Bool) (names : List String) (d : Delimiter) (arguments : List TokenTree)

/-- One name of a path with its arguments. -/
inductive Segment where
  | plain (name : String)
  | angled (name : String) (turbofish : Bool) (arguments : List GenericArg) (comma : Bool)
  | call (name : String) (inputs : List Ty) (comma : Bool) (output : Option Ty)

/-- An argument between angle brackets. -/
inductive GenericArg where
  | lifetime (name : String)
  | type (t : Ty)
  | const (value : List TokenTree)
  | binding (target : Segment) (t : Ty)
  | constBinding (target : Segment) (value : List TokenTree)
  | constraint (target : Segment) (bounds : List Bound)

/-- A bound on a type. -/
inductive Bound where
  | lifetime (name : String)
  | trait (isParen : Bool) (isMaybe : Bool) (binder : Option (List LifetimeParam)) (rooted : Bool)
      (segments : List Segment)

end

instance : Inhabited Ty := ⟨.never⟩

namespace Ty

/-- The type that a path of plain names denotes. -/
def ofNames (rooted : Bool) (names : List String) : Ty := .path rooted (names.map .plain)

/-- The type constructor of the given name applied to one type. -/
def applied (name : String) (t : Ty) : Ty := .path false [.angled name false [.type t] false]

end Ty

/-- The name of the segment. -/
def Segment.name : Segment → String
  | .plain name => name
  | .angled name _ _ _ => name
  | .call name _ _ _ => name

/-- Whether the argument is a lifetime. -/
def GenericArg.isLifetime : GenericArg → Bool
  | .lifetime _ => true
  | _ => false

/-- A path in an expression or in front of a macro call. -/
structure Path where
  rooted : Bool
  segments : List Segment

/-- The path of plain names. -/
def Path.ofNames (rooted : Bool) (names : List String) : Path := ⟨rooted, names.map .plain⟩

/-- The one name that the path consists of, if it does. -/
def Path.name? : Path → Option String
  | ⟨false, [.plain name]⟩ => some name
  | _ => none

/-! ## The tokens of a type -/

/-- The tokens of an operator: its marks, each joined to the next. -/
def operatorTokens : List Char → Tokens
  | [] => []
  | [c] => [.mark c false]
  | c :: cs => .mark c true :: operatorTokens cs

/-- The tokens of the named operator. -/
def op (text : String) : Tokens := operatorTokens text.toList

/-- The tokens of a lifetime. -/
def lifetimeTokens (name : String) : Tokens := [.mark '\'' true, .word name]

/-- The lists joined, with a comma between any two and, if asked for, one at the end. -/
def commaJoined (parts : List Tokens) (comma : Bool) : Tokens :=
  match parts with
  | [] => []
  | [last] => last ++ if comma then op "," else []
  | part :: parts => part ++ op "," ++ commaJoined parts comma

/-- The lists joined with the separator between any two. -/
def joinedBy (sep : Tokens) : List Tokens → Tokens
  | [] => []
  | [last] => last
  | part :: parts => part ++ sep ++ joinedBy sep parts

/-- The tokens of `for` with the lifetimes that it introduces. -/
def binderTokens : Option (List LifetimeParam) → Tokens
  | none => []
  | some params =>
    .word "for" :: op "<" ++
      commaJoined (params.map fun p =>
        lifetimeTokens p.name ++
          if p.bounds.isEmpty then [] else op ":" ++ joinedBy (op "+") (p.bounds.map lifetimeTokens))
        false ++ op ">"

/-- The tokens of `extern` with the name of the calling convention. -/
def abiTokens : Option (Option String) → Tokens
  | none => []
  | some none => [.word "extern"]
  | some (some name) => [.word "extern", .literal name]

/-- The arguments between angle brackets, those marked as lifetimes first. Each takes the comma
behind it along, and one is added where it is needed. -/
def argumentList (arguments : List (Bool × Tokens)) (comma : Bool) : Tokens :=
  let lifetimes := arguments.filter (·.1)
  let others := arguments.filter (!·.1)
  let lifetimeLast := (arguments.getLast?.any (·.1)) && !others.isEmpty
  commaJoined ((lifetimes ++ others).map (·.2)) (comma || lifetimeLast)

mutual

/-- The tokens of a type. -/
def Ty.tokens : Ty → Tokens
  | .path rooted segments => (if rooted then op "::" else []) ++ joinedBy (op "::") (segmentsTokens segments)
  | .projection self rooted through tail =>
    op "<" ++ self.tokens ++
      (match segmentsTokens through with
      | [] => []
      | parts => .word "as" :: (if rooted then op "::" else []) ++ joinedBy (op "::") parts) ++
      op ">" ++ (segmentsTokens tail).flatMap (op "::" ++ ·)
  | .tuple elems comma => [.group .paren (commaJoined (listTokens elems) comma)]
  | .paren inner => [.group .paren inner.tokens]
  | .array elem length => [.group .bracket (elem.tokens ++ op ";" ++ length)]
  | .slice elem => [.group .bracket elem.tokens]
  | .reference lifetime isMut target =>
    op "&" ++ (lifetime.map lifetimeTokens).getD [] ++ (if isMut then [.word "mut"] else []) ++
      target.tokens
  | .pointer isMut target => op "*" ++ [.word (if isMut then "mut" else "const")] ++ target.tokens
  | .function binder isUnsafe abi names params comma output =>
    binderTokens binder ++ (if isUnsafe then [.word "unsafe"] else []) ++ abiTokens abi ++
      [.word "fn", .group .paren
        (commaJoined (List.zipWith (fun name part =>
          match name with
          | some name => .word name :: op ":" ++ part
          | none => part) names (listTokens params)) comma)] ++
      outputTokens output
  | .never => op "!"
  | .infer => [.word "_"]
  | .object isDyn bounds =>
    (if isDyn then [.word "dyn"] else []) ++ joinedBy (op "+") (boundsTokens bounds)
  | .impls bounds => .word "impl" :: joinedBy (op "+") (boundsTokens bounds)
  | .invocation rooted names d arguments =>
    (if rooted then op "::" else []) ++ joinedBy (op "::") (names.map fun n => [.word n]) ++
      op "!" ++ [.group d arguments]

/-- The tokens of each type of a list. -/
def listTokens : List Ty → List Tokens
  | [] => []
  | t :: ts => t.tokens :: listTokens ts

/-- The tokens of the result type of a function. -/
def outputTokens : Option Ty → Tokens
  | none => []
  | some t => op "->" ++ t.tokens

/-- The tokens of a segment. -/
def Segment.tokens : Segment → Tokens
  | .plain name => [.word name]
  | .angled name turbofish arguments comma =>
    .word name :: (if turbofish then op "::" else []) ++ op "<" ++
      argumentList (argumentsTokens arguments) comma ++ op ">"
  | .call name inputs comma output =>
    [.word name, .group .paren (commaJoined (listTokens inputs) comma)] ++ outputTokens output

/-- The tokens of each segment of a list. -/
def segmentsTokens : List Segment → List Tokens
  | [] => []
  | s :: ss => s.tokens :: segmentsTokens ss

/-- The tokens of an argument. -/
def GenericArg.tokens : GenericArg → Tokens
  | .lifetime name => lifetimeTokens name
  | .type t => t.tokens
  | .const value => value
  | .binding target t => target.tokens ++ op "=" ++ t.tokens
  | .constBinding target value => target.tokens ++ op "=" ++ value
  | .constraint target bounds => target.tokens ++ op ":" ++ joinedBy (op "+") (boundsTokens bounds)

/-- The tokens of each argument of a list, with whether it is a lifetime. -/
def argumentsTokens : List GenericArg → List (Bool × Tokens)
  | [] => []
  | a :: as => (a.isLifetime, a.tokens) :: argumentsTokens as

/-- The tokens of a bound. -/
def Bound.tokens : Bound → Tokens
  | .lifetime name => lifetimeTokens name
  | .trait isParen isMaybe binder rooted segments =>
    let inner := (if isMaybe then op "?" else []) ++ binderTokens binder ++
      (if rooted then op "::" else []) ++ joinedBy (op "::") (segmentsTokens segments)
    if isParen then [.group .paren inner] else inner

/-- The tokens of each bound of a list. -/
def boundsTokens : List Bound → List Tokens
  | [] => []
  | b :: bs => b.tokens :: boundsTokens bs

end

end TypeFoundry.Source
