import TypeFoundry.Failure
import TypeFoundry.Source.Item

/-!
# Finding structs and modules in a unit

`locate` finds the struct of a name with the modules around it, `moduleItems?` finds the items of a
module, and `modifyModule` changes them. Names are compared as they are spelled. Modules may repeat:
`locate` tries every one of them, in order and in depth, while a path of modules leads through the
first module of each name.
-/

set_option autoImplicit false

namespace TypeFoundry.Source

mutual

/-- The struct of that name in the item, with the modules between the item and it. -/
def Item.locate (name : String) : Item → Option (List String × StructDecl)
  | .struct s => if s.name = name then some ([], s) else none
  | .module head items => (locate name items).map fun (path, s) => (head.name :: path, s)
  | _ => none

/-- The first struct of that name in the items, with the modules around it. -/
def locate (name : String) : List Item → Option (List String × StructDecl)
  | [] => none
  | item :: items =>
    match item.locate name with
    | some found => some found
    | none => locate name items

end

/-- The items of the module, if the item is the module of that name. -/
def Item.itemsOf? (name : String) : Item → Option (List Item)
  | .module head items => if head.name = name then some items else none
  | _ => none

/-- The items of the module at the path. -/
def moduleItems? : List String → List Item → Option (List Item)
  | [], items => some items
  | name :: path, items => (items.findSome? (Item.itemsOf? name)).bind (moduleItems? path)

/-- The list with the first element changed that can be. -/
def changeFirst {α : Type} (change : α → Option α) : List α → List α
  | [] => []
  | a :: as =>
    match change a with
    | some b => b :: as
    | none => a :: changeFirst change as

/-- The items with those of the module at the path changed, if there is that module. -/
def modifyModule (change : List Item → List Item) : List String → List Item → List Item
  | [], items => change items
  | name :: path, items =>
    changeFirst (fun item =>
      match item with
      | .module head inner =>
        if head.name = name then some (.module head (modifyModule change path inner)) else none
      | _ => none) items

/-- The struct of that name, if the item is one. -/
def Item.structNamed? (name : String) : Item → Option StructDecl
  | .struct s => if s.name = name then some s else none
  | _ => none

/-- The unit that the text is, or the failure that says that it defines no such type. -/
def SourceUnit.readFor (typeName source : String) : Except Failure SourceUnit :=
  match SourceUnit.read source with
  | .ok unit => .ok unit
  | .error position => .error (.malformed typeName (.unreadable position))

/-- The first struct of that name in the unit, with the modules around it. -/
def SourceUnit.structNamed (unit : SourceUnit) (typeName : String) :
    Except Failure (List String × StructDecl) :=
  match locate typeName unit.items with
  | some found => .ok found
  | none => .error (.malformed typeName .noStruct)

/-- The fields of the struct that have names. -/
def StructDecl.namedFields (s : StructDecl) : List Field :=
  match s.fields with
  | .named fields => fields
  | _ => []

/-- The text of a type with every space removed. -/
def Ty.packed (t : Ty) : String := .ofList ((TokenTree.spelledAll t.tokens).toList.filter (· ≠ ' '))

end TypeFoundry.Source

namespace TypeFoundry.Synthesis

open Source

/-- The name and the type of every named field of the type that the unit defines. -/
def declaredFields (source typeName : String) : Except Failure (List (String × String)) := do
  let unit ← SourceUnit.readFor typeName source
  let (_, s) ← unit.structNamed typeName
  return s.namedFields.map fun f => (f.name, f.type.packed)

/-- The full name of the type, by the modules around it in the unit. -/
def typePath (source typeName : String) : Except Failure TypePath := do
  let unit ← SourceUnit.readFor typeName source
  let (path, _) ← unit.structNamed typeName
  return ⟨path, typeName⟩

end TypeFoundry.Synthesis
