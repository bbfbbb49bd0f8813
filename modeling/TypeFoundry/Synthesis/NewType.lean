import TypeFoundry.Failure
import TypeFoundry.Source.Item.Layout

/-!
# New types

The unit of a new type: the modules of its namespace, one inside the other, and in the innermost a
struct with an identity and a display name. Texts that are no names abort the synthesis.
-/

set_option autoImplicit false

namespace TypeFoundry.Synthesis

open Source

/-- The field that holds the identity of every type. -/
def identityField : String := "id"

/-- The field that holds the display name of every type. -/
def displayNameField : String := "name"

/-- The attribute with words between parentheses. -/
def wordsAttribute (inner : Bool) (name : String) (words : List String) : Attribute :=
  ⟨inner, .call ⟨false, [name]⟩ .paren (commaJoined (words.map fun w => [.word w]) false)⟩

/-- The attribute that documents what it belongs to. -/
def docAttribute (inner : Bool) (text : String) : Attribute :=
  ⟨inner, .value ⟨false, ["doc"]⟩ [.literal (Text.stringLiteral text)]⟩

/-- The attribute that silences the warnings that made-up names and imports would give. -/
def silence : Attribute :=
  wordsAttribute true "allow" ["dead_code", "non_snake_case", "unused_imports"]

/-- A public field. -/
def publicField (name : String) (type : Ty) : Field := ⟨[], .everywhere, name, type⟩

/-- The struct of a new type. -/
def newStruct (name : String) : StructDecl where
  attrs := [wordsAttribute false "derive" ["Default"]]
  visibility := .everywhere
  name := name
  generics := .none
  fields := .named
    [{ publicField identityField (.ofNames false ["u128"]) with
        attrs := [docAttribute false " UUID, stored as its 128-bit value."] },
      publicField displayNameField (.ofNames false ["String"])]

/-- A public module. -/
def publicModule (name : String) (items : List Item) : Item :=
  .module ⟨[], .everywhere, false, name⟩ items

/-- The items inside the modules of the namespace, the first of which is the outermost. -/
def enclose (modules : List String) (items : List Item) : List Item :=
  modules.foldr (fun name items => [publicModule name items]) items

/-- The unit that declares a new type in the namespace. -/
def newUnit (name : String) (modules : List String) : SourceUnit where
  shebang := none
  attrs := [docAttribute true "Generated by typeforge", silence]
  items := enclose modules [.struct (newStruct name)]

/-- The text of the unit of a new type. -/
def newType (name : String) (modules : List String) : Except Halt String :=
  if isItemName name && modules.all isModuleName then .ok (newUnit name modules).text
  else .error .aborted

end TypeFoundry.Synthesis
