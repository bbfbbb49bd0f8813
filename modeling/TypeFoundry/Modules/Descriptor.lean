import TypeFoundry.Failure
import TypeFoundry.Text.Decimal
import TypeFoundry.Text.Lines

/-!
# Descriptors

A compiled module describes its types in lines with columns between tabs: `type` with a full name,
size and alignment, then `field` with the full name, the name and type of the field and its offset.
`Descriptor.render` writes such a text and `Descriptor.read` reads one. Empty lines do not count and
further columns are passed over; a field belongs to the nearest type before it that has its full
name.
-/

set_option autoImplicit false

namespace TypeFoundry

/-- Where a field lies in a value. -/
structure FieldLayout where
  name : String
  typeName : String
  offset : Nat
  deriving DecidableEq

/-- What a module says about one of its types. -/
structure TypeLayout where
  path : TypePath
  size : Nat
  align : Nat
  fields : List FieldLayout
  deriving DecidableEq

namespace Descriptor

/-- A line with the columns. -/
def line (columns : List String) : String := "\t".intercalate columns ++ "\n"

/-- The line of a type. -/
def typeLine (t : TypeLayout) : String :=
  line ["type", t.path.display, toString t.size, toString t.align]

/-- The line of a field. -/
def fieldLine (owner : TypePath) (f : FieldLayout) : String :=
  line ["field", owner.display, f.name, f.typeName, toString f.offset]

/-- The lines of a type and its fields. -/
def typeLines (t : TypeLayout) : List String := typeLine t :: t.fields.map (fieldLine t.path)

/-- The text that describes the types. -/
def render (ts : List TypeLayout) : String := String.join (ts.flatMap typeLines)

/-- The types with the field added to the first one of that full name. -/
def attach (owner : TypePath) (f : FieldLayout) : List TypeLayout → Option (List TypeLayout)
  | [] => none
  | t :: ts =>
    if t.path = owner then some ({ t with fields := t.fields ++ [f] } :: ts)
    else (attach owner f ts).map (t :: ·)

/-- What a line adds to the types before it. -/
inductive Entry where
  | type (path : TypePath) (size align : Nat)
  | field (owner : TypePath) (f : FieldLayout)
  deriving DecidableEq

/-- The entry that the line is. -/
def entry? (text : String) : Option Entry :=
  match Text.columns '\t' text with
  | tag :: owner :: columns => do
    let owner ← TypePath.parse owner
    match tag, columns with
    | "type", size :: align :: _ => return .type owner (← Text.number? size) (← Text.number? align)
    | "field", name :: typeName :: offset :: _ =>
      return .field owner ⟨name, typeName, ← Text.number? offset⟩
    | _, _ => none
  | _ => none

/-- The types, the latest first, with what one more line adds to them. -/
def readLine (latest : List TypeLayout) (text : String) :
    Except DescriptorFault (List TypeLayout) :=
  match entry? text with
  | none => .error (.badLine text)
  | some (.type path size align) => .ok (⟨path, size, align, []⟩ :: latest)
  | some (.field owner f) =>
    match attach owner f latest with
    | some types => .ok types
    | none => .error (.undeclared owner)

/-- The types that the text describes, or the fault of its first faulty line. -/
def read (text : String) : Except DescriptorFault (List TypeLayout) :=
  ((((Text.lines text).filter (· ≠ "")).foldlM readLine []).map List.reverse)

end Descriptor

end TypeFoundry
