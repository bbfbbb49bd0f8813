import TypeFoundry.Json.Read
import TypeFoundry.Json.Write
import TypeFoundry.Naming.Namespace

/-!
# Requests

What a client asks for: a new type, or a further field of a type. A reference field names the type
that it refers to. Requests are read from JSON and written back to it.
-/

set_option autoImplicit false

namespace TypeFoundry

/-- The request for a new type. -/
structure TypeRequest where
  name : String
  deriving DecidableEq

/-- The kinds of values that a field can hold. -/
inductive FieldKind where
  | int
  | long
  | double
  | bool
  | string
  | reference
  deriving DecidableEq

/-- The request for a further field; `target` is the path of the type that a reference is to. -/
structure FieldRequest where
  name : String
  kind : FieldKind
  target : Option String
  deriving DecidableEq

namespace FieldKind

/-- All kinds. -/
def all : List FieldKind := [.int, .long, .double, .bool, .string, .reference]

/-- The name of the kind in a request. -/
def label : FieldKind → String
  | .int => "Int"
  | .long => "Long"
  | .double => "Double"
  | .bool => "Bool"
  | .string => "String"
  | .reference => "Reference"

/-- The kind of that name. -/
def ofLabel? (s : String) : Option FieldKind := all.find? (·.label == s)

/-- The kind that the value names: by its name alone or as the only member, which is null. -/
def ofJson? : Json → Option FieldKind
  | .string (some s) => ofLabel? s
  | .object [(some s, .null)] => ofLabel? s
  | _ => none

end FieldKind

namespace TypeRequest

/-- Fails if the name cannot be that of a type. -/
def check (r : TypeRequest) : Except Failure Unit := requireName "type name" r.name

/-- The request that the value describes. -/
def ofJson? (j : Json) : Option TypeRequest :=
  match j.known? ["name"] false with
  | some [some name] => return ⟨← name.text?⟩
  | _ => none

/-- The request as a value. -/
def toJson (r : TypeRequest) : Json := .record [("name", .text r.name)]

end TypeRequest

namespace FieldRequest

/-- Fails if the name cannot be that of a field. -/
def check (r : FieldRequest) : Except Failure Unit := requireName "field name" r.name

/-- The request that the value describes. -/
def ofJson? (j : Json) : Option FieldRequest :=
  match j.known? ["name", "kind", "referenceType"] false with
  | some [some name, some kind, target] =>
    return ⟨← name.text?, ← FieldKind.ofJson? kind, ← (target.getD .null).optional?⟩
  | _ => none

/-- The request as a value; a missing target is left out. -/
def toJson (r : FieldRequest) : Json :=
  .record <| [("name", .text r.name), ("kind", .text r.kind.label)] ++
    (r.target.map fun target => ("referenceType", Json.text target)).toList

end FieldRequest

end TypeFoundry
