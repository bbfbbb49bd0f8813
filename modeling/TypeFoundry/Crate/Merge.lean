import TypeFoundry.Synthesis.NewType

/-!
# Merging units

Several units become one crate. Modules of the same path become one module, in which every struct or
enum has its last definition, in the place of the first, and every import stands once. References
are units that are only needed for the types and imports in them; targets give all of their items
and come after the references, so their types win.
-/

set_option autoImplicit false

namespace TypeFoundry.Crate

open Source

/-- What a unit gives to the crate: its types and imports, or all of its items. -/
inductive Role where
  | reference
  | target
  deriving DecidableEq

/-- The modules of a crate: the items of a module and the modules inside it, by name. -/
inductive ModuleTree where
  | node (items : List Item) (children : List (String × ModuleTree))

/-- The name that a struct or an enum defines. -/
def typeName? : Item → Option String
  | .struct s => some s.name
  | .enum e => some e.name
  | _ => none

/-- The items with the type in the place of the one of its name, or at the end. -/
def putType (name : String) (item : Item) : List Item → List Item
  | [] => [item]
  | i :: is => if typeName? i = some name then item :: is else i :: putType name item is

/-- The items of a module with one more that is no module with a body. -/
def addLeaf (role : Role) (item : Item) (items : List Item) : List Item :=
  match item with
  | .use u => if items.any (Item.isImportOf u) then items else items ++ [item]
  | .struct s => putType s.name item items
  | .enum e => putType e.name item items
  | _ => if role = .target then items ++ [item] else items

namespace ModuleTree

/-- The crate without items. -/
def empty : ModuleTree := .node [] []

/-- The children with the one of the name changed; there is one if there was none. -/
def changeChild (name : String) (change : ModuleTree → ModuleTree) :
    List (String × ModuleTree) → List (String × ModuleTree)
  | [] => [(name, change empty)]
  | (n, t) :: rest =>
    if n = name then (n, change t) :: rest else (n, t) :: changeChild name change rest

/-- The module with the child of the name changed. -/
def inChild (name : String) (change : ModuleTree → ModuleTree) : ModuleTree → ModuleTree
  | .node items children => .node items (changeChild name change children)

/-- The module with its own items changed. -/
def inItems (change : List Item → List Item) : ModuleTree → ModuleTree
  | .node items children => .node (change items) children

end ModuleTree

mutual

/-- The module with what the item gives to it. -/
def addItem (role : Role) : Item → ModuleTree → ModuleTree
  | .module head items, t => t.inChild head.name (addItems role items)
  | .use u, t => t.inItems (addLeaf role (.use u))
  | .struct s, t => t.inItems (addLeaf role (.struct s))
  | .enum e, t => t.inItems (addLeaf role (.enum e))
  | .other d, t => t.inItems (addLeaf role (.other d))

/-- The module with what the items give to it. -/
def addItems (role : Role) : List Item → ModuleTree → ModuleTree
  | [], t => t
  | i :: is, t => addItems role is (addItem role i t)

end

mutual

/-- The items of a module, those of its own first. -/
def ModuleTree.toItems : ModuleTree → List Item
  | .node items children => items ++ childItems children

/-- The modules as items. -/
def childItems : List (String × ModuleTree) → List Item
  | [] => []
  | (name, t) :: rest => Synthesis.publicModule name t.toItems :: childItems rest

end

/-- The modules of the references and then of the targets. -/
def mergeTree (targets references : List SourceUnit) : ModuleTree :=
  targets.foldl (fun t u => addItems .target u.items t)
    (references.foldl (fun t u => addItems .reference u.items t) .empty)

/-- The crate that the references and the targets make up. -/
def merge (targets references : List SourceUnit) : SourceUnit where
  shebang := none
  attrs := [Synthesis.silence]
  items := (mergeTree targets references).toItems

end TypeFoundry.Crate
