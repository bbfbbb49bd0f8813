/-!
# JSON values

Requests, settings and messages of the toolchain come as JSON, and answers go out as JSON. Members
of an object keep their order and may repeat. A string can hold an escape that stands for no
character; such a string, also as the name of a member, has no text.
-/

set_option autoImplicit false

namespace TypeFoundry

/-- A JSON value. -/
inductive Json where
  | null
  | bool (b : Bool)
  | natural (n : Nat)
  /-- A number that is no natural number, or is not written as one. -/
  | number (written : String)
  /-- A string; it has no text if one of its escapes stands for no character. -/
  | string (text : Option String)
  | array (items : List Json)
  | object (members : List (Option String × Json))
  deriving Inhabited

namespace Json

/-- The string with the given text. -/
def text (s : String) : Json := .string (some s)

/-- The object with the given members. -/
def record (members : List (String × Json)) : Json :=
  .object (members.map fun m => (some m.1, m.2))

/-! ## What a value denotes -/

/-- The text of a string. -/
def text? : Json → Option String
  | .string s => s
  | _ => none

/-- The truth value. -/
def bool? : Json → Option Bool
  | .bool b => some b
  | _ => none

/-- The natural number, if it is below the bound. -/
def natural? (bound : Nat) : Json → Option Nat
  | .natural n => if n < bound then some n else none
  | _ => none

/-- The text of a string, or nothing for `null`. -/
def optional? : Json → Option (Option String)
  | .null => some none
  | .string (some s) => some (some s)
  | _ => none

/-- The values of a list, each of which must denote something. -/
def list? {α : Type} (item : Json → Option α) : Json → Option (List α)
  | .array items => items.mapM item
  | _ => none

/-- The values of the known names. They stand in an object, where a known name must not repeat and
an unknown one is passed over unless `strict`, or in a list in the order of the names, where the
last ones may be missing. -/
def known? (names : List String) (strict : Bool) : Json → Option (List (Option Json))
  | .object members =>
    let fits (key : Option String) : Bool :=
      match key with
      | some k => !strict || names.contains k
      | none => false
    if members.all (fun m => fits m.1)
        && names.all (fun k => (members.filter fun m => m.1 == some k).length ≤ 1) then
      some (names.map fun k => (members.find? fun m => m.1 == some k).map (·.2))
    else none
  | .array items =>
    if items.length ≤ names.length then
      some (items.map some ++ List.replicate (names.length - items.length) none)
    else none
  | _ => none

end Json

end TypeFoundry
