import TypeFoundry.Source.Item
import TypeFoundry.Source.Expr.Read

/-!
# Reading items

Items are read from tokens; `SourceUnit.read` reads a whole unit. Items inside blocks are read by the
same reader, one level deeper; the number that `itemFrom` takes bounds the levels.
-/

set_option autoImplicit false

namespace TypeFoundry.Source

namespace Reader

/-- Takes the visibility of an item or field. Parentheses behind `pub` belong to it only if they hold
one of three words alone, or a path behind `in`. -/
def visibility : Reader Visibility := do
  if ← keyword? "pub" then
    let ts ← rest
    match ts with
    | .group .paren (.word "in" :: _) :: _ =>
      .restricted true <$> group .paren (do keyword "in"; namePath)
    | .group .paren [.word w] :: _ =>
      if ["crate", "self", "super"].contains w then
        let _ ← anyGroup
        return .restricted false ⟨false, [w]⟩
      else return .everywhere
    | _ => return .everywhere
  else return .inherited

section

variable (item : Reader Unit)

/-- A type; what follows a path behind a plus sign belongs to it. -/
def anyTy : Reader Ty := fun ts => ty (constant item) (depth ts) true ts

/-- A bound. -/
def anyBound : Reader Bound := fun ts => bound (constant item) (depth ts) ts

/-- An expression. -/
def anyExpr : Reader Expr := fun ts => expr item (depth ts) true ts

/-- Attributes of what follows. -/
def attributes : Reader (List Attribute) := outerAttributes (constant item)

/-- Bounds with plus signs between them, up to where `closes` holds. -/
def boundList (closes : Tokens → Bool) : Nat → Reader (List Bound)
  | 0 => return []
  | fuel + 1 => do
    if ← sees closes then return []
    else
      let b ← anyBound item
      if ← operator? "+" then return b :: (← boundList closes fuel)
      else return [b]

/-- A parameter between angle brackets. -/
def genericParam : Reader GenericParam := do
  let attrs ← attributes item
  let ts ← rest
  if startsLifetime ts then return .lifetime attrs (← lifetimeParam)
  else if ← keyword? "const" then
    let a ← name
    operator ":"
    let t ← anyTy item
    let default ← if ← operator? "=" then some <$> constantArg (constant item) else pure none
    return .const attrs a t default
  else
    let a ← nameOr ["_"]
    let bounds ←
      if ← operator? ":" then
        boundList item (fun ts => startsOp "," ts || startsOp ">" ts || startsOp "=" ts)
          (TokenTree.sizes ts + 1)
      else pure []
    let default ← if ← operator? "=" then some <$> anyTy item else pure none
    return .type attrs a bounds default

/-- The parameters of an item, if it has any. -/
def genericParams : Reader (List GenericParam) := do
  if ← operator? "<" then
    let (params, _) ← angleList (genericParam item)
    operator ">"
    return params
  else return []

/-- Whether the conditions behind `where` end here. -/
def endsPredicates (ts : Tokens) : Bool :=
  ts.isEmpty || startsGroup .brace ts || startsOp "," ts || startsOp ";" ts ||
    (startsOp ":" ts && !startsOp "::" ts) || startsOp "=" ts

/-- The lifetimes that a lifetime outlives, in a condition. -/
def predicateLifetimes : Nat → Reader (List String)
  | 0 => return []
  | fuel + 1 => do
    if ← sees endsPredicates then return []
    else
      let a ← lifetime
      if ← operator? "+" then return a :: (← predicateLifetimes fuel)
      else return [a]

/-- A condition. -/
def predicate : Reader Predicate := do
  let ts ← rest
  if startsLifetime ts && startsOp ":" (behind ts) then
    let a ← lifetime
    operator ":"
    return .lifetime ⟨a, ← predicateLifetimes (TokenTree.sizes ts + 1)⟩
  else
    let lifetimes ← binder
    let t ← anyTy item
    operator ":"
    return .type lifetimes t (← boundList item endsPredicates (TokenTree.sizes ts + 1))

/-- Conditions with commas between them. -/
def predicates : Nat → Reader (List Predicate)
  | 0 => return []
  | fuel + 1 => do
    if ← sees endsPredicates then return []
    else
      let p ← predicate item
      if ← operator? "," then return p :: (← predicates fuel)
      else return [p]

/-- The conditions behind `where`, if it comes next. -/
def whereClause : Reader (List Predicate) := do
  if ← keyword? "where" then
    let ts ← rest
    predicates item (TokenTree.sizes ts + 1)
  else return []

/-- A field with a name. -/
def field : Reader Field := do
  let attrs ← attributes item
  let v ← visibility
  let a ← nameOr ["_"]
  operator ":"
  return ⟨attrs, v, a, ← anyTy item⟩

/-- A field without a name. -/
def slot : Reader Slot := do
  let attrs ← attributes item
  let v ← visibility
  return ⟨attrs, v, ← anyTy item⟩

/-- Fields in braces. -/
def namedFields : Reader (List Field) := Prod.fst <$> group .brace (commaList (field item))

/-- Fields in parentheses. -/
def unnamedFields : Reader (List Slot) := Prod.fst <$> group .paren (commaList (slot item))

/-- A struct behind its attributes. -/
def structDecl (attrs : List Attribute) : Reader StructDecl := do
  let v ← visibility
  keyword "struct"
  let a ← name
  let params ← genericParams item
  let conditions ← whereClause item
  let ts ← rest
  if startsGroup .brace ts then
    return ⟨attrs, v, a, ⟨params, conditions⟩, .named (← namedFields item)⟩
  else if conditions.isEmpty && startsGroup .paren ts then
    let slots ← unnamedFields item
    let conditions ← whereClause item
    operator ";"
    return ⟨attrs, v, a, ⟨params, conditions⟩, .unnamed slots⟩
  else
    operator ";"
    return ⟨attrs, v, a, ⟨params, conditions⟩, .unit⟩

/-- A variant of an enum. -/
def variant : Reader Variant := do
  let attrs ← attributes item
  let _ ← visibility
  let a ← name
  let ts ← rest
  let fields ←
    if startsGroup .brace ts then Fields.named <$> namedFields item
    else if startsGroup .paren ts then Fields.unnamed <$> unnamedFields item
    else pure .unit
  let value ← if ← operator? "=" then some <$> anyExpr item else pure none
  return ⟨attrs, a, fields, value⟩

/-- An enum behind its attributes. -/
def enumDecl (attrs : List Attribute) : Reader EnumDecl := do
  let v ← visibility
  keyword "enum"
  let a ← name
  let params ← genericParams item
  let conditions ← whereClause item
  let (variants, _) ← group .brace (commaList (variant item))
  return ⟨attrs, v, a, ⟨params, conditions⟩, variants⟩

/-- What an import names. -/
def useTree : Nat → Reader UseTree
  | 0 => stop
  | n + 1 => do
    let ts ← rest
    if ← operator? "*" then return .glob
    else if startsGroup .brace ts then
      let (trees, comma) ← group .brace (commaList (useTree n))
      return .group trees comma
    else
      let a ← nameOr ["self", "super", "crate", "try"]
      if ← operator? "::" then return .path a (← useTree n)
      else if ← keyword? "as" then return .rename a (← nameOr ["_"])
      else return .name a

/-- An import behind its attributes. -/
def useDecl (attrs : List Attribute) : Reader UseDecl := do
  let v ← visibility
  keyword "use"
  let rooted ← operator? "::"
  let tree ← useTree (depth (← rest))
  operator ";"
  return ⟨attrs, v, rooted, tree⟩

/-- The value that a method is called on, as the first parameter. -/
def selfParam (attrs : List Attribute) : Reader Param := do
  let reference ←
    if ← operator? "&" then
      some <$> (do if ← sees startsLifetime then some <$> lifetime else pure none)
    else pure none
  let isMut ← keyword? "mut"
  keyword "self"
  let t ← if reference.isNone && (← operator? ":") then some <$> anyTy item else pure none
  return .self attrs reference isMut t

/-- A parameter of a function. -/
def param : Reader Param := do
  let attrs ← attributes item
  match ← attempt (selfParam item attrs) with
  | some p => return p
  | none =>
    let p ← fun ts => pattern (constant item) (depth ts) ts
    operator ":"
    return .typed attrs p (← anyTy item)

/-- The head of a function up to its conditions. -/
def signature : Reader Signature := do
  let isConst ← keyword? "const"
  let isAsync ← keyword? "async"
  let isUnsafe ← keyword? "unsafe"
  let convention ← abi
  keyword "fn"
  let a ← name
  let params ← genericParams item
  let (inputs, _) ← group .paren (commaList (param item))
  let out ← if ← operator? "->" then some <$> anyTy item else pure none
  let conditions ← whereClause item
  return ⟨isConst, isAsync, isUnsafe, convention, a, ⟨params, conditions⟩, inputs, out⟩

/-- Whether the head of a function comes next. -/
def startsSignature (ts : Tokens) : Bool :=
  let skipWord (w : String) (ts : Tokens) : Tokens := if startsWord w ts then behind ts else ts
  let ts := skipWord "unsafe" (skipWord "async" (skipWord "const" ts))
  match abi ts with
  | .ok (_, ts) => startsWord "fn" ts
  | .error _ => false

/-- The body of a function, or the semicolon that stands for it; attributes inside come first. -/
def functionBody : Reader (List Attribute × Option Block) := do
  if ← operator? ";" then return ([], none)
  else
    group .brace do
      let attrs ← innerAttributes (constant item)
      let ts ← rest
      return (attrs, some (← stmts item (depth ts)))

/-- A value behind an equals sign, if there is one. -/
def initial : Reader (Option Expr) := do
  if ← operator? "=" then some <$> anyExpr item else return none

/-- A macro call behind its attributes: its path, the name that it defines, and its arguments. -/
def macroCall : Reader (NamePath × Option String × Delimiter × Tokens × Bool) := do
  let path ← namePath
  operator "!"
  let a ← if ← sees fun ts => startsName ts || startsWord "try" ts then some <$> anyWord else pure none
  let (d, arguments) ← anyGroup
  if d = .brace then return (path, a, d, arguments, false)
  else
    operator ";"
    return (path, a, d, arguments, true)

/-- A member of a trait, an implementation or a foreign block. -/
def member (place : Enclosure) : Reader Member := do
  let attrs ← attributes item
  let start ← rest
  let v ← visibility
  let isDefault ←
    if ← sees fun ts => startsWord "default" ts && !startsOp "!" (behind ts) then keyword? "default"
    else pure false
  let ts ← rest
  if startsSignature ts then
    let sig ← signature item
    let (inside, body) ← functionBody item
    return .function (attrs ++ inside) v isDefault sig body
  else if place ≠ .foreign && startsWord "const" ts then
    keyword "const"
    let a ← nameOr ["_"]
    let params ← genericParams item
    operator ":"
    let t ← anyTy item
    let value ← initial item
    let conditions ← whereClause item
    operator ";"
    return .const attrs v isDefault a ⟨params, conditions⟩ t value
  else if ← keyword? "type" then
    let a ← name
    let params ← genericParams item
    let bounds ←
      if ← operator? ":" then
        boundList item (fun ts => startsOp "=" ts || startsOp ";" ts || startsWord "where" ts)
          (TokenTree.sizes ts + 1)
      else pure []
    let t ← if ← operator? "=" then some <$> anyTy item else pure none
    let conditions ← whereClause item
    operator ";"
    return .alias attrs v isDefault a ⟨params, conditions⟩ bounds t
  else if place = .foreign && startsWord "static" ts then
    keyword "static"
    let isMut ← keyword? "mut"
    let a ← name
    operator ":"
    let t ← anyTy item
    operator ";"
    return .static attrs v isMut a t
  else
    set start
    let (path, _, d, arguments, isClosed) ← macroCall
    return .invocation attrs path d arguments isClosed

/-- Members in braces behind the attributes of what encloses them. -/
def members (place : Enclosure) : Reader (List Attribute × List Member) :=
  group .brace do
    let attrs ← innerAttributes (constant item)
    return (attrs, ← many (member item place))

/-- Whether an angle bracket behind `impl` opens parameters rather than a path. -/
def startsParams (ts : Tokens) : Bool :=
  let second := behind ts
  let third := behind second
  startsOp "<" ts && (startsOp ">" second || startsOp "#" second || startsWord "const" second ||
    ((startsLifetime second || startsName second) &&
      ((startsOp ":" third && !startsOp "::" third) || startsOp "," third || startsOp ">" third ||
        startsOp "=" third)))

/-- The unfinished declaration that takes the tokens from `start` to here. -/
def unfinished (start : Tokens) : Reader Declaration := do
  let left ← rest
  return .unfinished (start.take (start.length - left.length))

/-- Whether the type is written as a path of names. -/
def isPath : Ty → Bool
  | .path .. => true
  | _ => false

/-- An implementation behind its attributes. With a visibility, or of something that is no path, it
is unfinished. -/
def implementation (attrs : List Attribute) : Reader Declaration := do
  let start ← rest
  let v ← visibility
  let isDefault ← keyword? "default"
  let isUnsafe ← keyword? "unsafe"
  keyword "impl"
  let params ← if ← sees startsParams then genericParams item else pure []
  let isNegative ←
    if ← sees fun ts => startsOp "!" ts && !startsGroup .brace (behind ts) then operator? "!"
    else pure false
  let first ← anyTy item
  let isFor ← keyword? "for"
  let self ← if isFor then anyTy item else pure first
  let conditions ← whereClause item
  let (inside, body) ← members item .implementation
  if v ≠ .inherited || (isFor && !isPath first) || (isNegative && !isFor) then unfinished start
  else
    return .implementation (attrs ++ inside) isDefault isUnsafe ⟨params, conditions⟩
      (if isFor then some (isNegative, first) else none) self body

/-- A trait behind its attributes, or another name for bounds. -/
def traitDecl (attrs : List Attribute) : Reader Declaration := do
  let v ← visibility
  let isUnsafe ← keyword? "unsafe"
  let isAuto ← keyword? "auto"
  keyword "trait"
  let a ← name
  let params ← genericParams item
  let ts ← rest
  if !isUnsafe && !isAuto && startsOp "=" ts then
    operator "="
    let bounds ← boundList item (fun ts => startsWord "where" ts || startsOp ";" ts)
      (TokenTree.sizes ts + 1)
    let conditions ← whereClause item
    operator ";"
    return .traitAlias attrs v a ⟨params, conditions⟩ bounds
  let supers ←
    if ← operator? ":" then
      boundList item (fun ts => startsWord "where" ts || startsGroup .brace ts)
        (TokenTree.sizes ts + 1)
    else pure []
  let conditions ← whereClause item
  let (inside, body) ← members item .trait
  return .trait (attrs ++ inside) v isUnsafe isAuto a ⟨params, conditions⟩ supers body

/-- A declaration behind its attributes that is no module with a body, import, struct or enum;
`afterVisibility` is what follows its visibility. -/
def declaration (attrs : List Attribute) (afterVisibility : Tokens) : Reader Declaration := do
  let word (w : String) : Bool := startsWord w afterVisibility
  let next := behind afterVisibility
  let start ← rest
  if startsSignature afterVisibility then
    let v ← visibility
    let sig ← signature item
    match ← functionBody item with
    | (inside, some body) => return .function (attrs ++ inside) v sig body
    | (_, none) => unfinished start
  else if word "extern" && startsWord "crate" next then
    let v ← visibility
    keyword "extern"
    keyword "crate"
    let a ← nameOr ["self"]
    let target ← if ← keyword? "as" then some <$> nameOr ["_"] else pure none
    operator ";"
    return .library attrs v a target
  else if word "extern" || (word "unsafe" && startsWord "extern" next) then
    let isUnsafe ← keyword? "unsafe"
    keyword "extern"
    let a ←
      if ← sees fun ts => match ts with | .literal text :: _ => text.startsWith "\"" | _ => false then
        some <$> literal
      else pure none
    let (inside, body) ← members item .foreign
    return .foreign (attrs ++ inside) isUnsafe a body
  else if word "static" then
    let v ← visibility
    keyword "static"
    let isMut ← keyword? "mut"
    let a ← name
    if (← initial item).isSome then
      operator ";"
      unfinished start
    else
      operator ":"
      let t ← anyTy item
      if ← operator? ";" then unfinished start
      else
        operator "="
        let value ← anyExpr item
        operator ";"
        return .static attrs v isMut a t value
  else if word "const" then
    let v ← visibility
    keyword "const"
    let a ← nameOr ["_"]
    let params ← genericParams item
    operator ":"
    let t ← anyTy item
    let value ← initial item
    let conditions ← whereClause item
    operator ";"
    match value with
    | some value =>
      if params.isEmpty && conditions.isEmpty then return .const attrs v a t value
      else unfinished start
    | none => unfinished start
  else if word "type" then
    let v ← visibility
    keyword "type"
    let a ← name
    let params ← genericParams item
    let isBounded ← operator? ":"
    let ts ← rest
    if isBounded then
      let _ ← boundList item
        (fun ts => startsOp "=" ts || startsOp ";" ts || startsWord "where" ts)
        (TokenTree.sizes ts + 1)
    let conditions ← whereClause item
    let t ← if ← operator? "=" then some <$> anyTy item else pure none
    operator ";"
    match t with
    | some t =>
      if isBounded then unfinished start else return .alias attrs v a ⟨params, conditions⟩ t
    | none => unfinished start
  else if word "union" && startsName next then
    let v ← visibility
    let _ ← anyWord
    let a ← name
    let params ← genericParams item
    let conditions ← whereClause item
    return .union attrs v a ⟨params, conditions⟩ (← namedFields item)
  else if word "trait" || (word "auto" && startsWord "trait" next) ||
      (word "unsafe" && (startsWord "trait" next ||
        (startsWord "auto" next && startsWord "trait" (behind next)))) then
    traitDecl item attrs
  else if word "impl" || (word "default" && !startsOp "!" next) ||
      (word "unsafe" && startsWord "impl" next) then
    implementation item attrs
  else if word "macro" then
    let _ ← visibility
    keyword "macro"
    let _ ← name
    if ← sees (startsGroup .paren) then
      let _ ← anyGroup
    group .brace (everything *> pure ())
    unfinished start
  else if word "unsafe" then
    set next
    stop
  else if (← rest) = afterVisibility &&
      (startsName afterVisibility || ["self", "super", "crate"].any word ||
        startsOp "::" afterVisibility) then
    let (path, a, d, arguments, isClosed) ← macroCall
    return .invocation attrs path a d arguments isClosed
  else
    set afterVisibility
    stop

end

/-- An item. -/
def itemFrom : Nat → Reader Item
  | 0 => stop
  | n + 1 => do
    let inner : Reader Unit := itemFrom n *> pure ()
    let attrs ← attributes inner
    let start ← rest
    let v ← visibility
    let ts ← rest
    let next := behind ts
    if startsWord "mod" ts || (startsWord "unsafe" ts && startsWord "mod" next) then
      let isUnsafe ← keyword? "unsafe"
      keyword "mod"
      let a ← nameOr ["try"]
      if ← operator? ";" then return .other (.outline attrs v isUnsafe a)
      else
        group .brace do
          let inside ← innerAttributes (constant inner)
          return .module ⟨attrs ++ inside, v, isUnsafe, a⟩ (← many (itemFrom n))
    else
      set start
      if startsWord "use" ts then return .use (← useDecl attrs)
      else if startsWord "struct" ts then return .struct (← structDecl inner attrs)
      else if startsWord "enum" ts then return .enum (← enumDecl inner attrs)
      else return .other (← declaration inner attrs ts)

/-- An item inside a block or between other items. -/
def anyItem : Reader Item := fun ts => itemFrom (TokenTree.sizes ts + 1) ts

/-- The attributes and items of a unit. -/
def unitBody : Reader (List Attribute × List Item) := do
  let attrs ← innerAttributes (constant (anyItem *> pure ()))
  return (attrs, ← many anyItem)

end Reader

end TypeFoundry.Source
