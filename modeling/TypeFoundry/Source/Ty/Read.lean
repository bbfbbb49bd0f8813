import TypeFoundry.Source.Reader

/-!
# Reading types

Types, paths and bounds are read from tokens. How a constant inside a type is read is given from
outside: `constant` takes an expression and answers nothing, since the constant is kept as tokens.
The number that the readers take first bounds how deep they call each other.
-/

set_option autoImplicit false

namespace TypeFoundry.Source

namespace Reader

/-- Whether a number with a minus sign comes next. -/
def startsNegative : Tokens → Bool
  | .mark '-' _ :: .literal text :: _ => text.toList.head?.any Char.isDigit
  | _ => false

/-- Whether a bound comes next. -/
def startsBound (ts : Tokens) : Bool :=
  match ts with
  | .word _ :: _ => true
  | _ => startsOp "::" ts || startsOp "?" ts || startsLifetime ts || startsGroup .paren ts

/-- Whether the next word can start a path. -/
def startsPath : Tokens → Bool
  | .word w :: _ => !isReserved w || ["super", "self", "Self", "crate"].contains w
  | ts => startsOp "::" ts || startsOp "<" ts

/-- A name that a path starts or goes on with; the second component says whether it is one of the
words that take no arguments. -/
def segmentName : Reader (String × Bool) := do
  if ← sees fun ts => ["super", "self", "crate", "try"].any (startsWord · ts) then
    return (← anyWord, true)
  else return (← nameOr ["Self"], false)

/-- Lifetimes with plus signs between them up to a comma or a closing angle bracket. -/
def lifetimeBounds : Nat → Reader (List String)
  | 0 => return []
  | fuel + 1 => do
    if ← sees fun ts => startsOp "," ts || startsOp ">" ts then return []
    else
      let a ← lifetime
      if ← operator? "+" then return a :: (← lifetimeBounds fuel)
      else return [a]

/-- A lifetime with the lifetimes that it outlives. -/
def lifetimeParam : Reader LifetimeParam := do
  let a ← lifetime
  if ← operator? ":" then return ⟨a, ← lifetimeBounds (TokenTree.sizes (← rest) + 1)⟩
  else return ⟨a, []⟩

/-- The lifetimes that `for` introduces, if it comes next. -/
def binder : Reader (Option (List LifetimeParam)) := do
  if ← keyword? "for" then
    operator "<"
    let (params, _) ← angleList lifetimeParam
    operator ">"
    return some params
  else return none

/-- The calling convention, if one comes next. -/
def abi : Reader (Option (Option String)) := do
  if ← keyword? "extern" then
    if ← sees fun ts => match ts with | .literal text :: _ => text.startsWith "\"" | _ => false then
      return some (some (← literal))
    else return some none
  else return none

section

variable (constant : Reader Unit)

/-- A constant between angle brackets: a literal, a block or a name. -/
def constantArg : Reader Tokens := do
  let ts ← rest
  if startsNegative ts then
    operator "-"
    return [.literal ("-" ++ (← literal))]
  else if startsGroup .brace ts then return (← spelled (nextOnly constant)).2
  else if startsLiteral ts then return (← spelled literal).2
  else return (← spelled name).2

mutual

/-- A type; a plus sign behind a path is read as part of it only if `isOpen`. -/
def ty : Nat → Bool → Reader Ty
  | 0, _ => stop
  | n + 1, isOpen => do
    let lifetimes ← binder
    let ts ← rest
    if lifetimes.isSome && !(startsPath ts || ["fn", "unsafe", "extern"].any (startsWord · ts)) then stop
    else if startsGroup .paren ts && lifetimes.isNone then parenTy n isOpen
    else if ["fn", "unsafe", "extern"].any (startsWord · ts) then functionTy n lifetimes
    else if startsPath ts then
      let t ← pathTy n
      match t with
      | .path rooted segments =>
        if lifetimes.isSome || (isOpen && (← sees (startsOp "+"))) then
          let first := Bound.trait false false lifetimes rooted segments
          if isOpen && (← operator? "+") then return .object false (first :: (← moreBounds n))
          else return .object false [first]
        else return t
      | t => return t
    else if ← keyword? "dyn" then
      let bounds ← bounds n isOpen
      if bounds.any fun | .trait .. => true | _ => false then return .object true bounds
      else fun _ => stop ts
    else if startsLifetime ts then
      let bounds ← bounds n isOpen
      if bounds.any fun | .trait .. => true | _ => false then return .object false bounds
      else fun _ => stop ts
    else if startsGroup .bracket ts then
      group .bracket do
        let elem ← ty n true
        if ← operator? ";" then
          let (_, length) ← spelled constant
          return .array elem length
        else return .slice elem
    else if ← operator? "*" then
      let isMut ← keyword? "mut"
      if !isMut then keyword "const"
      return .pointer isMut (← ty n false)
    else if ← operator? "&" then
      let a ← if ← sees startsLifetime then some <$> lifetime else pure none
      let isMut ← keyword? "mut"
      return .reference a isMut (← ty n false)
    else if startsOp "!" ts && !startsOp "!=" ts then
      operator "!"
      return .never
    else if ← keyword? "impl" then return .impls (← bounds n isOpen)
    else if ← keyword? "_" then return .infer
    else stop

/-- A type in parentheses, or a tuple. -/
def parenTy : Nat → Bool → Reader Ty
  | 0, _ => stop
  | n + 1, isOpen => do
    let t : Ty ← group .paren do
      if ← isDone then return .tuple [] false
      else if ← sees (startsOp "?") then
        match ← bound n with
        | .trait _ isMaybe lifetimes rooted segments =>
          return .object false [.trait true isMaybe lifetimes rooted segments]
        | b => return .object false [b]
      else
        let first ← ty n true
        if ← operator? "," then
          if ← isDone then return .tuple [first] true
          else
            let (others, comma) ← commaList (ty n true)
            return .tuple (first :: others) comma
        else return .paren first
    let isMore := isOpen && (← sees (startsOp "+"))
    match t with
    | .object false [b] =>
      if ← operator? "+" then return .object false (b :: (← moreBounds n))
      else return t
    | .paren (.path rooted segments) =>
      if isMore then
        operator "+"
        return .object false (.trait true false none rooted segments :: (← moreBounds n))
      else return t
    | .paren (.object false [.trait _ isMaybe lifetimes rooted segments]) =>
      if isMore then
        operator "+"
        return .object false (.trait true isMaybe lifetimes rooted segments :: (← moreBounds n))
      else return t
    | t => return t

/-- A function pointer type behind its `for`. -/
def functionTy : Nat → Option (List LifetimeParam) → Reader Ty
  | 0, _ => stop
  | n + 1, lifetimes => do
    let isUnsafe ← keyword? "unsafe"
    let convention ← abi
    keyword "fn"
    let (params, comma) ← group .paren <| commaList do
      let ts ← rest
      let isNamed := (startsName ts || ["_", "self"].any (startsWord · ts)) &&
        startsOp ":" (behind ts) && !startsOp "::" (behind ts)
      if isNamed then
        let a ← anyWord
        operator ":"
        return (some a, ← ty n true)
      else return (none, ← ty n true)
    return .function lifetimes isUnsafe convention (params.map (·.1)) (params.map (·.2)) comma
      (← output n)

/-- The result type behind an arrow, if one comes next. -/
def output : Nat → Reader (Option Ty)
  | 0 => stop
  | n + 1 => do
    if ← operator? "->" then return some (← ty n false)
    else return none

/-- A type that a path names: the path may start with a type in angle brackets, take arguments in
parentheses, or name a macro. -/
def pathTy : Nat → Reader Ty
  | 0 => stop
  | n + 1 => do
    if ← sees (startsOp "<") then
      let (self, rooted, through, tail) ← projection n false
      return .projection self rooted through tail
    else
      let (rooted, segments) ← path n false
      let segments ← callArguments n segments
      let ts ← rest
      let names := segments.filterMap fun | .plain name => some name | _ => none
      if startsOp "!" ts && !startsOp "!=" ts && names.length = segments.length then
        operator "!"
        let (d, arguments) ← anyGroup
        return .invocation rooted names d arguments
      else return .path rooted segments

/-- Arguments in parentheses behind the last segment, and what may follow them. -/
def callArguments : Nat → List Segment → Reader (List Segment)
  | 0, _ => stop
  | n + 1, segments => do
    let ts ← rest
    let isCall := startsGroup .paren ts ||
      (startsOp "::" ts && startsGroup .paren (behind (behind ts)))
    match segments.getLast? with
    | some (.plain name) =>
      if isCall then
        let _ ← operator? "::"
        let (inputs, comma) ← group .paren (commaList (ty n true))
        let out ← output n
        let segments := segments.dropLast ++ [.call name inputs comma out]
        match out with
        | none => callArguments n (segments ++ (← moreSegments n false))
        | some (.paren _) => callArguments n (segments ++ (← moreSegments n false))
        | _ => return segments
      else return segments
    | _ => return segments

/-- A type in angle brackets with the rest of the path behind it. -/
def projection : Nat → Bool → Reader (Ty × Bool × List Segment × List Segment)
  | 0, _ => stop
  | n + 1, isExpr => do
    operator "<"
    let self ← ty n true
    let (rooted, through) ← if ← keyword? "as" then path n false else pure (false, [])
    operator ">"
    operator "::"
    let first ← segment n isExpr
    return (self, rooted, through, first :: (← moreSegments n isExpr))

/-- A path; in an expression its arguments stand behind two colons. -/
def path : Nat → Bool → Reader (Bool × List Segment)
  | 0, _ => stop
  | n + 1, isExpr => do
    let rooted ← operator? "::"
    let first ← segment n isExpr
    return (rooted, first :: (← moreSegments n isExpr))

/-- Segments as long as two colons and a name follow. -/
def moreSegments : Nat → Bool → Reader (List Segment)
  | 0, _ => stop
  | n + 1, isExpr => do
    let ts ← rest
    if startsOp "::" ts && !startsGroup .paren (behind (behind ts)) then
      operator "::"
      let s ← segment n isExpr
      return s :: (← moreSegments n isExpr)
    else return []

/-- A segment. -/
def segment : Nat → Bool → Reader Segment
  | 0, _ => stop
  | n + 1, isExpr => do
    let (name, isBare) ← segmentName
    let ts ← rest
    if isBare then return .plain name
    else if (!isExpr && startsOp "<" ts && !startsOp "<=" ts) ||
        (startsOp "::" ts && startsOp "<" (behind (behind ts))) then
      let turbofish ← operator? "::"
      let (arguments, comma) ← angled n
      return .angled name turbofish arguments comma
    else return .plain name

/-- Arguments in angle brackets. -/
def angled : Nat → Reader (List GenericArg × Bool)
  | 0 => stop
  | n + 1 => do
    operator "<"
    let arguments ← angleList (genericArg n)
    operator ">"
    return arguments

/-- An argument between angle brackets. -/
def genericArg : Nat → Reader GenericArg
  | 0 => stop
  | n + 1 => do
    let ts ← rest
    if startsLifetime ts && !startsOp "+" (behind ts) then return .lifetime (← lifetime)
    else if startsLiteral ts || startsNegative ts || startsGroup .brace ts then
      return .const (← constantArg constant)
    else
      let t ← ty n true
      match t with
      | .path false [.call ..] => return .type t
      | .path false [target] =>
        if ← operator? "=" then
          let ts ← rest
          if startsLiteral ts || startsNegative ts || startsGroup .brace ts then
            return .constBinding target (← constantArg constant)
          else return .binding target (← ty n true)
        else if ← operator? ":" then
          if ← sees fun ts => startsOp "," ts || startsOp ">" ts then return .constraint target []
          else return .constraint target (← bounds n true)
        else return .type t
      | t => return .type t

/-- A bound. -/
def bound : Nat → Reader Bound
  | 0 => stop
  | n + 1 => do
    if ← sees startsLifetime then return .lifetime (← lifetime)
    else if ← sees (startsGroup .paren) then
      group .paren do
        match ← traitBound n with
        | .trait _ isMaybe lifetimes rooted segments =>
          return .trait true isMaybe lifetimes rooted segments
        | b => return b
    else traitBound n

/-- A trait as a bound. -/
def traitBound : Nat → Reader Bound
  | 0 => stop
  | n + 1 => do
    let lifetimes ← binder
    let isMaybe ← operator? "?"
    let lifetimes ← if lifetimes.isNone && isMaybe then binder else pure lifetimes
    let (rooted, segments) ← path n false
    let ts ← rest
    let isCall := startsGroup .paren ts ||
      (startsOp "::" ts && startsGroup .paren (behind (behind ts)))
    match segments.getLast? with
    | some (.plain name) =>
      if isCall then
        let _ ← operator? "::"
        let (inputs, comma) ← group .paren (commaList (ty n true))
        let out ← output n
        return .trait false isMaybe lifetimes rooted (segments.dropLast ++ [.call name inputs comma out])
      else return .trait false isMaybe lifetimes rooted segments
    | _ => return .trait false isMaybe lifetimes rooted segments

/-- Bounds with plus signs between them; only one if not `isOpen`. -/
def bounds : Nat → Bool → Reader (List Bound)
  | 0, _ => stop
  | n + 1, isOpen => do
    let first ← bound n
    if isOpen && (← operator? "+") then return first :: (← moreBounds n)
    else return [first]

/-- Bounds behind a plus sign, which may also end the list. -/
def moreBounds : Nat → Reader (List Bound)
  | 0 => stop
  | n + 1 => do
    if ← sees startsBound then bounds n true
    else return []

end

end

/-- How deep readers may call each other on the tokens. -/
def depth (ts : Tokens) : Nat := 8 * (TokenTree.sizes ts + 1)

end Reader

end TypeFoundry.Source
