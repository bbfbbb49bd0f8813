import TypeFoundry.Request
import TypeFoundry.Synthesis.Locate
import TypeFoundry.Synthesis.NewType

/-!
# Further fields

`addField` adds a field to the struct that a unit defines and lays the unit out again. A reference
field holds an optional box of the type it refers to, by its path from the root of the crate; the
namespace of that type is imported, unless the struct lives in it.
-/

set_option autoImplicit false

namespace TypeFoundry.Synthesis

open Source

/-- The built-in type that holds values of the kind. -/
def primitiveName? : FieldKind → Option String
  | .int => some "i32"
  | .long => some "i64"
  | .double => some "f64"
  | .bool => some "bool"
  | .string => some "String"
  | .reference => none

/-- The type of a field that refers to the type at the path. -/
def referenceType (target : TypePath) : Ty :=
  .applied "Option" (.applied "Box" (.ofNames false target.crateSegments))

/-- What an import of everything in the namespace names, from the crate's root on. -/
def importTree (modules : List String) : UseTree :=
  .path "crate" (modules.foldr .path .glob)

/-- The import of everything in the namespace. -/
def importOf (modules : List String) : UseDecl := ⟨[], .inherited, false, importTree modules⟩

/-- The items with the import behind their last import, or in front if they have none. An import
that is there is not repeated. -/
def insertImport (u : UseDecl) (items : List Item) : List Item :=
  if items.any (Item.isImportOf u) then items
  else
    let behind := (items.reverse.takeWhile fun item => !item.isImport).length
    items.take (items.length - behind) ++ .use u :: items.drop (items.length - behind)

/-- Whether the text can be a part of the path of a type. -/
def isPathName (text : String) : Bool := isIdentifier text && TypePath.isSegment text

/-- Whether the text can be a part of what an import names. -/
def isUseName (text : String) : Bool := isPathName text && text != "Self"

/-- The type of the field and the import that it needs in the given namespace. -/
def fieldType (resolve : TypePath → Option TypePath) (current : List String) (r : FieldRequest) :
    Except Halt (Ty × Option UseDecl) :=
  match primitiveName? r.kind with
  | some name => .ok (.ofNames false [name], none)
  | none =>
    let requested := Text.trim (r.target.getD "")
    if requested.isEmpty then .error (.failure (.invalidReference r.name))
    else
      match (TypePath.parse requested).bind resolve with
      | none => .error (.failure (.unknownReference requested))
      | some target =>
        if !target.segments.all isPathName then .error .aborted
        else if target.modules = current then .ok (referenceType target, none)
        else if !target.modules.all isUseName then .error .aborted
        else .ok (referenceType target, some (importOf target.modules))

/-- The struct with one more field, if its fields have names. -/
def pushField (field : Field) (s : StructDecl) : StructDecl :=
  match s.fields with
  | .named fields => { s with fields := .named (fields ++ [field]) }
  | _ => s

/-- The items with one more field on the first struct of the name. -/
def pushFieldOn (typeName : String) (field : Field) (items : List Item) : List Item :=
  changeFirst (fun item => (item.structNamed? typeName).map fun s => .struct (pushField field s))
    items

/-- The items of a module with the import and with one more field on the first struct of the
name. -/
def editItems (typeName : String) (field : Field) (needed : Option UseDecl) (items : List Item) :
    List Item :=
  pushFieldOn typeName field (match needed with
    | some u => insertImport u items
    | none => items)

/-- The unit with the requested field on the struct of the name. -/
def addFieldTo (unit : SourceUnit) (typeName : String) (r : FieldRequest)
    (resolve : TypePath → Option TypePath) : Except Halt SourceUnit := do
  let (path, located) ← (unit.structNamed typeName).mapError .failure
  let .named fields := located.fields
    | throw (.failure (.malformed typeName .noNamedFields))
  if fields.any (·.name = r.name) then throw (.failure (.duplicateField typeName r.name))
  let (type, needed) ← fieldType resolve path r
  let some items := moduleItems? path unit.items
    | throw (.failure (.malformed typeName .noModule))
  let some target := items.findSome? (Item.structNamed? typeName)
    | throw (.failure (.malformed typeName .noStruct))
  if !isIdentifier r.name then
    if let .named _ := target.fields then throw .aborted
  let edit := editItems typeName (publicField r.name type) needed
  return { unit with items := modifyModule edit path unit.items }

/-- The text of the unit with the requested field on the struct of the name; `resolve` answers the
full name of a type that is loaded. A unit with unfinished items cannot be laid out. -/
def addField (source typeName : String) (r : FieldRequest)
    (resolve : TypePath → Option TypePath) : Except Halt String := do
  let unit ← (SourceUnit.readFor typeName source).mapError .failure
  let edited ← addFieldTo unit typeName r resolve
  if areFinished edited.items then return edited.text else throw .aborted

end TypeFoundry.Synthesis
