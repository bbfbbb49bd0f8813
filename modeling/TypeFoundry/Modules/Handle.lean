import TypeFoundry.Modules.Descriptor
import TypeFoundry.Synthesis.NewType

/-!
# Handles

A handle stands for a type of a loaded module. Two handles are of the same type if their modules
have the same identity and the types the same full name, so a type that is compiled anew differs
from what it was before.
-/

set_option autoImplicit false

namespace TypeFoundry

/-- Where a module comes from: units that were there at the start, or a request. -/
inductive Origin where
  | assembly
  | dynamic
  deriving DecidableEq

/-- The name of the origin. -/
def Origin.label : Origin → String
  | .assembly => "Assembly"
  | .dynamic => "Dynamic"

/-- Which module it is: its identity, its place in the order of modules, and its origin. -/
structure ModuleInfo where
  id : ModuleId
  generation : Nat
  origin : Origin
  deriving DecidableEq

/-- A type of a loaded module. -/
structure TypeHandle where
  layout : TypeLayout
  module : ModuleInfo
  deriving DecidableEq

namespace TypeHandle

/-- The full name of the type. -/
def path (h : TypeHandle) : TypePath := h.layout.path

/-- The name of the type. -/
def name (h : TypeHandle) : String := h.path.name

/-- The fields of the type. -/
def fields (h : TypeHandle) : List FieldLayout := h.layout.fields

/-- The first field of that name. -/
def field? (h : TypeHandle) (name : String) : Option FieldLayout := h.fields.find? (·.name = name)

/-- Whether values of the type have an identity of their own. -/
def hasIdentity (h : TypeHandle) : Bool := (h.field? Synthesis.identityField).isSome

/-- Whether the handles are of the same type. -/
def same (a b : TypeHandle) : Bool := a.module.id = b.module.id && a.path = b.path

end TypeHandle

/-- The field as a JSON value. -/
def FieldLayout.toJson (f : FieldLayout) : Json :=
  .record [("name", .text f.name), ("typeName", .text f.typeName), ("offset", .natural f.offset)]

/-- The module as a JSON value. -/
def ModuleInfo.toJson (m : ModuleInfo) : Json :=
  .record [("id", .text m.id.hyphenated), ("generation", .natural m.generation),
    ("origin", .text m.origin.label)]

/-- The handle as a JSON value. -/
def TypeHandle.toJson (h : TypeHandle) : Json :=
  .record [("fullName", .text h.path.display), ("size", .natural h.layout.size),
    ("align", .natural h.layout.align), ("fields", .array (h.fields.map FieldLayout.toJson)),
    ("module", h.module.toJson)]

end TypeFoundry
