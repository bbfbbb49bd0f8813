import TypeFoundry.Source.Expr

/-!
# Items

A source unit is a list of items. Modules with a body nest; imports, structs and enums have types of
their own, since units are edited and merged by them; every other declaration is one of the last kind.
-/

set_option autoImplicit false

namespace TypeFoundry.Source

/-- From where an item can be named. -/
inductive Visibility where
  | inherited
  | everywhere
  | restricted (isIn : Bool) (path : NamePath)
  deriving DecidableEq

/-- A parameter between angle brackets. -/
inductive GenericParam where
  | lifetime (attrs : List Attribute) (p : LifetimeParam)
  | type (attrs : List Attribute) (name : String) (bounds : List Bound) (default : Option Ty)
  | const (attrs : List Attribute) (name : String) (t : Ty) (default : Option Tokens)

/-- A condition behind `where`. -/
inductive Predicate where
  | lifetime (p : LifetimeParam)
  | type (binder : Option (List LifetimeParam)) (t : Ty) (bounds : List Bound)

/-- The parameters of an item and the conditions on them. -/
structure Generics where
  params : List GenericParam
  predicates : List Predicate

/-- No parameters. -/
def Generics.none : Generics := ⟨[], []⟩

/-- A field with a name. -/
structure Field where
  attrs : List Attribute
  visibility : Visibility
  name : String
  type : Ty

/-- A field that is known by its place. -/
structure Slot where
  attrs : List Attribute
  visibility : Visibility
  type : Ty

/-- The fields of a struct or variant. -/
inductive Fields where
  | named (fields : List Field)
  | unnamed (slots : List Slot)
  | unit

/-- A struct. -/
structure StructDecl where
  attrs : List Attribute
  visibility : Visibility
  name : String
  generics : Generics
  fields : Fields

/-- A variant of an enum. -/
structure Variant where
  attrs : List Attribute
  name : String
  fields : Fields
  discriminant : Option Expr

/-- An enum. -/
structure EnumDecl where
  attrs : List Attribute
  visibility : Visibility
  name : String
  generics : Generics
  variants : List Variant

/-- What an import names. -/
inductive UseTree where
  | path (name : String) (tree : UseTree)
  | name (name : String)
  | rename (name : String) (target : String)
  | glob
  | group (trees : List UseTree) (comma : Bool)

namespace UseTree

mutual

/-- Whether two import trees are the same. -/
def same : UseTree → UseTree → Bool
  | path a s, path b t => a == b && same s t
  | name a, name b => a == b
  | rename a c, rename b d => a == b && c == d
  | glob, glob => true
  | group ss c, group ts d => sameAll ss ts && c == d
  | _, _ => false

/-- Whether two lists of import trees are the same. -/
def sameAll : List UseTree → List UseTree → Bool
  | [], [] => true
  | s :: ss, t :: ts => same s t && sameAll ss ts
  | _, _ => false

end

mutual

theorem same_iff : ∀ s t : UseTree, same s t = true ↔ s = t
  | path a s, t => by cases t <;> simp [same, same_iff s]
  | name a, t => by cases t <;> simp [same]
  | rename a c, t => by cases t <;> simp [same]
  | glob, t => by cases t <;> simp [same]
  | group ss c, t => by cases t <;> simp [same, sameAll_iff ss]

theorem sameAll_iff : ∀ ss ts : List UseTree, sameAll ss ts = true ↔ ss = ts
  | [], ts => by cases ts <;> simp [sameAll]
  | s :: ss, ts => by cases ts <;> simp [sameAll, same_iff s, sameAll_iff ss]

end

instance : DecidableEq UseTree := fun s t => decidable_of_iff _ (same_iff s t)

end UseTree

/-- An import. -/
structure UseDecl where
  attrs : List Attribute
  visibility : Visibility
  rooted : Bool
  tree : UseTree
  deriving DecidableEq

/-- A parameter of a function. -/
inductive Param where
  /-- The value that a method is called on: by reference, with or without a lifetime, or by value. -/
  | self (attrs : List Attribute) (reference : Option (Option String)) (isMut : Bool)
      (type : Option Ty)
  | typed (attrs : List Attribute) (pattern : Pattern) (type : Ty)

/-- The head of a function. -/
structure Signature where
  isConst : Bool
  isAsync : Bool
  isUnsafe : Bool
  abi : Option (Option String)
  name : String
  generics : Generics
  params : List Param
  output : Option Ty

/-- What members stand in. -/
inductive Enclosure where
  | trait
  | implementation
  | foreign
  deriving DecidableEq

/-- A member of a trait, an implementation or a foreign block. -/
inductive Member where
  | function (attrs : List Attribute) (visibility : Visibility) (isDefault : Bool) (sig : Signature)
      (body : Option Block)
  | const (attrs : List Attribute) (visibility : Visibility) (isDefault : Bool) (name : String)
      (generics : Generics) (type : Ty) (value : Option Expr)
  | alias (attrs : List Attribute) (visibility : Visibility) (isDefault : Bool) (name : String)
      (generics : Generics) (bounds : List Bound) (type : Option Ty)
  | static (attrs : List Attribute) (visibility : Visibility) (isMut : Bool) (name : String)
      (type : Ty)
  | invocation (attrs : List Attribute) (path : NamePath) (d : Delimiter) (arguments : Tokens)
      (isClosed : Bool)

/-- A declaration that neither nests nor defines a struct or an enum. An unfinished one lacks a part
that its kind needs, such as a constant without a value, and is kept as its tokens. -/
inductive Declaration where
  /-- A module whose body stands elsewhere. -/
  | outline (attrs : List Attribute) (visibility : Visibility) (isUnsafe : Bool) (name : String)
  | union (attrs : List Attribute) (visibility : Visibility) (name : String) (generics : Generics)
      (fields : List Field)
  | function (attrs : List Attribute) (visibility : Visibility) (sig : Signature) (body : Block)
  | implementation (attrs : List Attribute) (isDefault : Bool) (isUnsafe : Bool)
      (generics : Generics) (of : Option (Bool × Ty)) (self : Ty) (members : List Member)
  | trait (attrs : List Attribute) (visibility : Visibility) (isUnsafe : Bool) (isAuto : Bool)
      (name : String) (generics : Generics) (supers : List Bound) (members : List Member)
  | traitAlias (attrs : List Attribute) (visibility : Visibility) (name : String)
      (generics : Generics) (bounds : List Bound)
  | const (attrs : List Attribute) (visibility : Visibility) (name : String) (type : Ty)
      (value : Expr)
  | static (attrs : List Attribute) (visibility : Visibility) (isMut : Bool) (name : String)
      (type : Ty) (value : Expr)
  | alias (attrs : List Attribute) (visibility : Visibility) (name : String) (generics : Generics)
      (type : Ty)
  | invocation (attrs : List Attribute) (path : NamePath) (name : Option String) (d : Delimiter)
      (arguments : Tokens) (isClosed : Bool)
  | library (attrs : List Attribute) (visibility : Visibility) (name : String)
      (rename : Option String)
  | foreign (attrs : List Attribute) (isUnsafe : Bool) (abi : Option String)
      (members : List Member)
  | unfinished (tokens : Tokens)

/-- The head of a module with a body. -/
structure ModuleHead where
  attrs : List Attribute
  visibility : Visibility
  isUnsafe : Bool
  name : String

/-- An item. -/
inductive Item where
  | module (head : ModuleHead) (items : List Item)
  | use (u : UseDecl)
  | struct (s : StructDecl)
  | enum (e : EnumDecl)
  | other (d : Declaration)

/-! ## Finished items -/

/-- Whether the member has the parts that it needs where it stands, and no others. -/
def Member.isFinished : Enclosure → Member → Bool
  | .trait, .function _ v isDefault _ _ => v = .inherited && !isDefault
  | .trait, .const _ v isDefault _ _ _ _ => v = .inherited && !isDefault
  | .trait, .alias _ v isDefault _ _ _ _ => v = .inherited && !isDefault
  | .trait, .invocation .. => true
  | .implementation, .function _ _ _ _ body => body.isSome
  | .implementation, .const _ _ _ _ _ _ value => value.isSome
  | .implementation, .alias _ _ _ _ _ bounds type => bounds.isEmpty && type.isSome
  | .implementation, .invocation .. => true
  | .foreign, .function _ _ isDefault _ body => !isDefault && body.isNone
  | .foreign, .alias _ _ isDefault _ _ bounds type => !isDefault && bounds.isEmpty && type.isNone
  | .foreign, .static .. => true
  | .foreign, .invocation .. => true
  | _, _ => false

/-- Whether the declaration and its members are finished. -/
def Declaration.isFinished : Declaration → Bool
  | .implementation _ _ _ _ _ _ members => members.all (Member.isFinished .implementation)
  | .trait _ _ _ _ _ _ _ members => members.all (Member.isFinished .trait)
  | .foreign _ _ _ members => members.all (Member.isFinished .foreign)
  | .unfinished _ => false
  | _ => true

mutual

/-- Whether everything in the item is finished. -/
def Item.isFinished : Item → Bool
  | .module _ items => areFinished items
  | .other d => d.isFinished
  | _ => true

/-- Whether everything in the items is finished. -/
def areFinished : List Item → Bool
  | [] => true
  | i :: is => i.isFinished && areFinished is

end

/-! ## Imports -/

/-- Whether the item is an import. -/
def Item.isImport : Item → Bool
  | .use _ => true
  | _ => false

/-- Whether the item is just that import. -/
def Item.isImportOf (u : UseDecl) : Item → Bool
  | .use v => v = u
  | _ => false

/-- A source unit; the shebang is its first line, if it starts with one. -/
structure SourceUnit where
  shebang : Option String
  attrs : List Attribute
  items : List Item

end TypeFoundry.Source
