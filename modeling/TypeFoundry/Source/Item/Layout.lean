import TypeFoundry.Source.Item.Read
import TypeFoundry.Source.Expr.Layout
import TypeFoundry.Layout.Fill

/-!
# The layout of items

An item is a list of lines: its attributes and then the item itself. `SourceUnit.text` is the text of
a unit. Constants inside types and items inside blocks are kept as tokens; they are read again to be
laid out, which `Inner.upTo` does to a given depth.
-/

set_option autoImplicit false

namespace TypeFoundry.Source

open Layout

/-- The layout of a visibility. -/
def Visibility.layout : Visibility → Doc
  | .inherited => []
  | .everywhere => word "pub "
  | .restricted _ path =>
    let isWord := path == ⟨false, ["self"]⟩ || path == ⟨false, ["super"]⟩ || path == ⟨false, ["crate"]⟩
    word "pub(" ++ (if isWord then [] else word "in ") ++ path.layout ++ word ") "

mutual

/-- The layout of what an import names. -/
def UseTree.layout : UseTree → Doc
  | .path name tree => word name ++ word "::" ++ tree.layout
  | .name name => word name
  | .rename name target => word name ++ word " as " ++ word target
  | .glob => word "*"
  | .group [] _ => word "\x7b\x7d"
  | .group [.name name] _ =>
    if name == "self" then
      cbox indent (word "\x7b" ++ zerobreak 0 ++ ibox 0 (word name) ++ commaBreak (-indent) 0 ++
        word "\x7d")
    else word name
  | .group [.rename name target] _ =>
    let one := word name ++ word " as " ++ word target
    if name == "self" then
      cbox indent (word "\x7b" ++ zerobreak 0 ++ ibox 0 one ++ commaBreak (-indent) 0 ++ word "\x7d")
    else one
  | .group [tree] _ => tree.layout
  | .group trees _ =>
    cbox indent (word "\x7b" ++ zerobreak 0 ++ ibox 0 (treesLayout trees) ++
      commaBreak (-indent) 0 ++ word "\x7d")

/-- The layout of import trees with commas between them. -/
def treesLayout : List UseTree → Doc
  | [] => []
  | [tree] => tree.layout
  | tree :: trees =>
    tree.layout ++ word "," ++ (if tree.endsInGroup then hardbreak 0 else space 0) ++
      treesLayout trees

/-- Whether the path of the import ends in braces. -/
def UseTree.endsInGroup : UseTree → Bool
  | .path _ tree => tree.endsInGroup
  | .group .. => true
  | _ => false

end

/-- The line of an import. -/
def UseDecl.layout (u : UseDecl) : Doc :=
  u.visibility.layout ++ word "use " ++ (if u.rooted then word "::" else []) ++ u.tree.layout ++
    word ";"

section

variable (inner : Inner)

/-- The layout of bounds with the given document between any two. -/
def boundsWith (sep : Doc) (bounds : List Bound) : Doc :=
  separated sep (boundsLayout inner.constant bounds)

/-- The documents of the lines, each with its end, in front of something on the same level. -/
def attrsLayout (attrs : List Attribute) : Doc := lineList (outerLines inner.constant attrs)

/-- The layout of a parameter between angle brackets. -/
def GenericParam.layout : GenericParam → Doc
  | .lifetime attrs p => attrsLayout inner attrs ++ p.layout
  | .type attrs name bounds default =>
    attrsLayout inner attrs ++ word name ++
      ibox indent ((if bounds.isEmpty then [] else word ": " ++ boundsWith inner (space 0 ++ word "+ ") bounds) ++
        (match default with | some t => space 0 ++ word "= " ++ t.layout inner.constant | none => []))
  | .const attrs name t default =>
    attrsLayout inner attrs ++ word "const " ++ word name ++ word ": " ++ t.layout inner.constant ++
      (match default with | some value => word " = " ++ inner.constant value | none => [])

/-- Whether the parameter is a lifetime. -/
def GenericParam.isLifetime : GenericParam → Bool
  | .lifetime .. => true
  | _ => false

/-- The layout of the parameters of an item, lifetimes first. -/
def paramsLayout (params : List GenericParam) : Doc :=
  if params.isEmpty then []
  else enclosed "<" ">" 0 (lifetimesFirst (params.map fun p => (p.isLifetime, p.layout inner)))

/-- The layout of a condition. -/
def Predicate.layout : Predicate → Doc
  | .lifetime p =>
    lifetimeLayout p.name ++ word ":" ++
      ibox indent (if p.bounds.isEmpty then []
        else nbsp ++ separated (space 0 ++ word "+ ") (p.bounds.map lifetimeLayout))
  | .type binder t bounds =>
    binderLayout binder ++ t.layout inner.constant ++ word ":" ++
      ibox (if bounds.length = 1 then 0 else indent)
        (if bounds.isEmpty then [] else nbsp ++ boundsWith inner (space 0 ++ word "+ ") bounds)

/-- The layout of conditions on lines of their own in front of a brace; a blank if there are none. -/
def whereBody (predicates : List Predicate) : Doc :=
  if predicates.isEmpty then nbsp
  else
    hardbreak (-indent) ++ word "where" ++ hardbreak 0 ++
      innerLines (predicates.map fun p => .whole (p.layout inner ++ word ","))

/-- The layout of conditions on lines of their own in front of the semicolon. -/
def whereEnd (predicates : List Predicate) : Doc :=
  if predicates.isEmpty then word ";"
  else
    hardbreak (-indent) ++ word "where" ++ hardbreak 0 ++
      separated (word "," ++ hardbreak 0) (predicates.map (·.layout inner)) ++ word ";"

/-- The layout of conditions where they fit on the line; a blank if there are none. -/
def whereOneline (predicates : List Predicate) : Doc :=
  if predicates.isEmpty then nbsp
  else
    space (-indent) ++ word "where" ++ space 0 ++
      commaList (predicates.map (·.layout inner)) (-indent) 1

/-- The same in front of the semicolon. -/
def whereOnelineEnd (predicates : List Predicate) : Doc :=
  if predicates.isEmpty then word ";"
  else
    space (-indent) ++ word "where" ++ space 0 ++
      separated (word "," ++ space 0) (predicates.map (·.layout inner)) ++ word ";"

/-- The layout of a field behind its attributes. -/
def Field.content (f : Field) : Doc :=
  f.visibility.layout ++ word f.name ++ word ": " ++ f.type.layout inner.constant

/-- The layout of a field. -/
def Field.layout (f : Field) : Doc := attrsLayout inner f.attrs ++ f.content inner

/-- The layout of a field without a name. -/
def Slot.layout (s : Slot) : Doc :=
  attrsLayout inner s.attrs ++ s.visibility.layout ++ s.type.layout inner.constant

/-- The lines of fields in braces. -/
def fieldLines (fields : List Field) : List Line :=
  fields.flatMap fun f =>
    outerLines inner.constant f.attrs ++ [.whole (f.content inner ++ word ",")]

/-- The layout of fields in parentheses, in the box of the caller. -/
def slotsLayout (slots : List Slot) : Doc := enclosedHere "(" ")" (slots.map (·.layout inner))

/-- The layout of a variant behind its attributes. -/
def Variant.content (v : Variant) : Doc :=
  word v.name ++
    (match v.fields with
    | .named [] => word " \x7b\x7d"
    | .named fields =>
      word " \x7b" ++ cbox indent (space 0 ++ commaList (fields.map (·.layout inner)) (-indent) 1) ++
        word "\x7d"
    | .unnamed slots => cbox indent (slotsLayout inner slots)
    | .unit => []) ++
    (match v.discriminant with
    | some e => word " = " ++ e.layout inner false false
    | none => [])

/-- Braces around lines, in the box of the caller, with the conditions in front of them. -/
def bodyLayout (predicates : List Predicate) (lines : List Line) : Doc :=
  whereBody inner predicates ++ word "\x7b" ++ bodyLines lines

/-- The lines of a struct. -/
def StructDecl.lines (s : StructDecl) : List Line :=
  let head := s.visibility.layout ++ word "struct " ++ word s.name ++ paramsLayout inner s.generics.params
  outerLines inner.constant s.attrs ++
    [.whole (match s.fields with
      | .named fields =>
        cbox indent (head ++ bodyLayout inner s.generics.predicates (fieldLines inner fields)) ++
          word "\x7d"
      | .unnamed slots =>
        cbox indent (head ++ slotsLayout inner slots ++ whereEnd inner s.generics.predicates)
      | .unit => cbox indent (head ++ whereEnd inner s.generics.predicates))]

/-- The lines of an enum. -/
def EnumDecl.lines (e : EnumDecl) : List Line :=
  outerLines inner.constant e.attrs ++
    [.whole (cbox indent (e.visibility.layout ++ word "enum " ++ word e.name ++
      paramsLayout inner e.generics.params ++
      bodyLayout inner e.generics.predicates (e.variants.flatMap fun v =>
        outerLines inner.constant v.attrs ++ [.whole (v.content inner ++ word ",")])) ++
      word "\x7d")]

/-- The layout of a parameter of a function. -/
def Param.layout : Param → Doc
  | .self attrs reference isMut t =>
    attrsLayout inner attrs ++
      (match reference with
      | some (some a) => word "&" ++ lifetimeLayout a ++ nbsp
      | some none => word "&"
      | none => []) ++
      (if isMut then word "mut " else []) ++ word "self" ++
      (match t with | some t => word ": " ++ t.layout inner.constant | none => [])
  | .typed attrs pattern t =>
    attrsLayout inner attrs ++ pattern.layout inner.constant ++ word ": " ++ t.layout inner.constant

/-- The layout of the head of a function, in the box of the caller. -/
def Signature.layout (s : Signature) : Doc :=
  (if s.isConst then word "const " else []) ++ (if s.isAsync then word "async " else []) ++
    (if s.isUnsafe then word "unsafe " else []) ++ abiLayout s.abi ++ word "fn " ++ word s.name ++
    paramsLayout inner s.generics.params ++ word "(" ++ neverbreak ++
    (if s.params.isEmpty then []
    else cbox 0 (zerobreak 0 ++ commaList (s.params.map (·.layout inner)) (-indent) 0)) ++
    word ")" ++ cbox (-indent) (outputLayout inner.constant s.output)

/-- The layout of a function behind its attributes, in front of which `head` stands. -/
def functionLayout (attrs : List Attribute) (head : Doc) (s : Signature) (body : Option Block) : Doc :=
  match body with
  | some stmts =>
    cbox indent (head ++ s.layout inner ++ bodyLayout inner s.generics.predicates
      (innerAttributeLines inner.constant attrs ++ stmtsLines inner stmts)) ++ word "\x7d"
  | none => cbox indent (head ++ s.layout inner ++ whereEnd inner s.generics.predicates)

/-- The layout of a value behind an equals sign. -/
def valueLayout (e : Expr) : Doc := word " = " ++ neverbreak ++ e.layout inner false false

/-- The lines of a macro call. -/
def macroLines (attrs : List Attribute) (path : NamePath) (d : Delimiter) (arguments : Tokens)
    (isClosed : Bool) : List Line :=
  outerLines inner.constant attrs ++
    [.whole (path.layout ++ word "!" ++ argumentsLayout d arguments ++
      if isClosed && d.isTight then word ";" else [])]

/-- The lines of a member. -/
def Member.lines : Member → List Line
  | .function attrs visibility isDefault sig body =>
    outerLines inner.constant attrs ++
      [.whole (functionLayout inner attrs
        (visibility.layout ++ if isDefault then word "default " else []) sig body)]
  | .const attrs visibility isDefault name generics t value =>
    outerLines inner.constant attrs ++
      [.whole (cbox 0 (visibility.layout ++ (if isDefault then word "default " else []) ++
        word "const " ++ word name ++ paramsLayout inner generics.params ++ word ": " ++
        t.layout inner.constant ++ ((value.map (valueLayout inner)).getD []) ++ word ";"))]
  | .alias attrs visibility isDefault name generics bounds t =>
    outerLines inner.constant attrs ++
      [.whole (cbox indent (visibility.layout ++ (if isDefault then word "default " else []) ++
        word "type " ++ word name ++ paramsLayout inner generics.params ++
        (if bounds.isEmpty then [] else word ": " ++ boundsWith inner (space 0 ++ word "+ ") bounds) ++
        (match t with
        | some t => word " = " ++ neverbreak ++ ibox (-indent) (t.layout inner.constant)
        | none => []) ++
        whereOnelineEnd inner generics.predicates))]
  | .static attrs visibility isMut name t =>
    outerLines inner.constant attrs ++
      [.whole (cbox 0 (visibility.layout ++ word "static " ++ (if isMut then word "mut " else []) ++
        word name ++ word ": " ++ t.layout inner.constant ++ word ";"))]
  | .invocation attrs path d arguments isClosed => macroLines inner attrs path d arguments isClosed

/-- The rules of a macro that is defined by them, from the given place in a rule on. -/
inductive RulePart where
  | start
  | matcher
  | equal
  | greater
  | expander

/-- The layout of a group in a macro's rule. -/
def ruleGroup (isMatcher : Bool) (ends : Int → Doc) (ts : Tokens) : Doc :=
  if ts.isEmpty then []
  else cbox indent (ends 0 ++ ibox 0 (tokensLayout isMatcher ts) ++ ends (-indent))

/-- The lines of a macro's rules: what has been laid out of the rule that is being read stands in
`line`. -/
def ruleLines (part : RulePart) (line : Doc) : Tokens → List Line
  | [] =>
    match part with
    | .start => []
    | .expander => [.whole (line ++ word ";")]
    | _ => [.whole line]
  | t :: ts =>
    match part, t with
    | .start, .group d inside =>
      ruleLines .matcher (word d.opener.toString ++ ruleGroup true zerobreak inside ++
        word d.closer.toString) ts
    | .matcher, .mark '=' _ => ruleLines .equal (line ++ word " =") ts
    | .equal, .mark '>' _ => ruleLines .greater (line ++ word ">") ts
    | .greater, .group _ inside =>
      ruleLines .expander (line ++ word " \x7b" ++ neverbreak ++ ruleGroup false hardbreak inside ++
        word "\x7d") ts
    | .expander, .mark ';' _ => .whole (line ++ word ";") :: ruleLines .start [] ts
    | _, _ => [.whole line]

/-- The lines of a declaration. -/
def Declaration.lines : Declaration → List Line
  | .outline attrs visibility isUnsafe name =>
    outerLines inner.constant attrs ++
      [.whole (cbox indent (visibility.layout ++ (if isUnsafe then word "unsafe " else []) ++
        word "mod " ++ word name ++ word ";"))]
  | .union attrs visibility name generics fields =>
    outerLines inner.constant attrs ++
      [.whole (cbox indent (visibility.layout ++ word "union " ++ word name ++
        paramsLayout inner generics.params ++
        bodyLayout inner generics.predicates (fieldLines inner fields)) ++ word "\x7d")]
  | .function attrs visibility sig body =>
    outerLines inner.constant attrs ++
      [.whole (functionLayout inner attrs visibility.layout sig (some body))]
  | .implementation attrs isDefault isUnsafe generics of self members =>
    outerLines inner.constant attrs ++
      [.whole (cbox indent (ibox (-indent) (cbox indent
          ((if isDefault then word "default " else []) ++ (if isUnsafe then word "unsafe " else []) ++
          word "impl" ++ paramsLayout inner generics.params) ++ nbsp ++
        (match of with
        | some (isNegative, t) =>
          (if isNegative then word "!" else []) ++ t.layout inner.constant ++ space 0 ++ word "for "
        | none => []) ++ self.layout inner.constant) ++
        bodyLayout inner generics.predicates (innerAttributeLines inner.constant attrs ++
          members.flatMap (·.lines inner))) ++ word "\x7d")]
  | .trait attrs visibility isUnsafe isAuto name generics supers members =>
    outerLines inner.constant attrs ++
      [.whole (cbox indent (visibility.layout ++ (if isUnsafe then word "unsafe " else []) ++
        (if isAuto then word "auto " else []) ++ word "trait " ++ word name ++
        paramsLayout inner generics.params ++
        (if supers.isEmpty then [] else word ": " ++ boundsWith inner (word " + ") supers) ++
        bodyLayout inner generics.predicates (innerAttributeLines inner.constant attrs ++
          members.flatMap (·.lines inner))) ++ word "\x7d")]
  | .traitAlias attrs visibility name generics bounds =>
    outerLines inner.constant attrs ++
      [.whole (cbox indent (visibility.layout ++ word "trait " ++ word name ++
        paramsLayout inner generics.params ++ word " = " ++ neverbreak ++
        boundsWith inner (space 0 ++ word "+ ") bounds ++ whereEnd inner generics.predicates))]
  | .const attrs visibility name t value =>
    outerLines inner.constant attrs ++
      [.whole (cbox 0 (visibility.layout ++ word "const " ++ word name ++ word ": " ++
        t.layout inner.constant ++ valueLayout inner value ++ word ";"))]
  | .static attrs visibility isMut name t value =>
    outerLines inner.constant attrs ++
      [.whole (cbox 0 (visibility.layout ++ word "static " ++ (if isMut then word "mut " else []) ++
        word name ++ word ": " ++ t.layout inner.constant ++ valueLayout inner value ++ word ";"))]
  | .alias attrs visibility name generics t =>
    outerLines inner.constant attrs ++
      [.whole (cbox indent (visibility.layout ++ word "type " ++ word name ++
        paramsLayout inner generics.params ++ whereOneline inner generics.predicates ++ word "= " ++
        neverbreak ++ ibox (-indent) (t.layout inner.constant) ++ word ";"))]
  | .invocation attrs path name d arguments isClosed =>
    match name with
    | none => macroLines inner attrs path d arguments isClosed
    | some a =>
      if path == ⟨false, ["macro_rules"]⟩ then
        outerLines inner.constant attrs ++
          [.whole (word "macro_rules! " ++ word a ++ word " \x7b" ++
            cbox indent (bodyLines (ruleLines .start [] arguments)) ++ word "\x7d")]
      else
        outerLines inner.constant attrs ++
          [.whole (path.layout ++ word "!" ++ nbsp ++ word a ++ argumentsLayout d arguments ++
            if isClosed && d.isTight then word ";" else [])]
  | .library attrs visibility name rename =>
    outerLines inner.constant attrs ++
      [.whole (visibility.layout ++ word "extern crate " ++ word name ++
        (match rename with | some a => word " as " ++ word a | none => []) ++ word ";")]
  | .foreign attrs isUnsafe abi members =>
    outerLines inner.constant attrs ++
      [.whole (cbox indent ((if isUnsafe then word "unsafe " else []) ++ abiLayout (some abi) ++
        word "\x7b" ++ bodyLines (innerAttributeLines inner.constant attrs ++
          members.flatMap (·.lines inner))) ++ word "\x7d")]
  | .unfinished tokens => [.whole (tokensLayout false tokens)]

mutual

/-- The lines of an item. -/
def Item.lines : Item → List Line
  | .module head items =>
    outerLines inner.constant head.attrs ++
      [.whole (cbox indent (head.visibility.layout ++ (if head.isUnsafe then word "unsafe " else []) ++
        word "mod " ++ word head.name ++ word " \x7b" ++
        bodyLines (innerAttributeLines inner.constant head.attrs ++ itemsLines items)) ++ word "\x7d")]
  | .use u => outerLines inner.constant u.attrs ++ [.whole u.layout]
  | .struct s => s.lines inner
  | .enum e => e.lines inner
  | .other d => d.lines inner

/-- The lines of items. -/
def itemsLines : List Item → List Line
  | [] => []
  | i :: is => i.lines ++ itemsLines is

end

end

/-- The layout of what is kept as tokens, nested at most to the given depth; what nests deeper is laid
out token by token. -/
def Inner.upTo : Nat → Inner
  | 0 => ⟨tokensLayout false, fun ts => [.whole (tokensLayout false ts)]⟩
  | depth + 1 =>
    { constant := fun ts =>
        match Reader.whole? (Reader.anyExpr (Reader.anyItem *> pure ())) ts with
        | some e => e.layout (Inner.upTo depth) false false
        | none => tokensLayout false ts
      item := fun ts =>
        match Reader.whole? Reader.anyItem ts with
        | some i => i.lines (Inner.upTo depth)
        | none => [.whole (tokensLayout false ts)] }

/-- How deep constants and local items nest that are laid out by their structure. -/
def innerDepth : Nat := 64

/-- The document of a unit. -/
def SourceUnit.layout (u : SourceUnit) : Doc :=
  let inner := Inner.upTo innerDepth
  cbox 0 (lineList
    ((match u.shebang with | some s => [Line.whole (word s)] | none => []) ++
      innerAttributeLines inner.constant u.attrs ++ itemsLines inner u.items))

/-- The text of a unit. -/
def SourceUnit.text (u : SourceUnit) : String := render u.layout

end TypeFoundry.Source
