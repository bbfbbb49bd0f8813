import TypeFoundry.Source.Keyword
import TypeFoundry.Source.Scan
import TypeFoundry.Text.Blank
import TypeFoundry.Text.Identifier

/-!
# Names

The names that types and fields are given. `checkName` decides which texts a request may use and
says what is wrong with the others; `isIdentifier` says which texts can stand in a unit as they are.
-/

set_option autoImplicit false

namespace TypeFoundry

/-- What is wrong with a requested name. -/
inductive NameFault where
  | missing
  | raw
  | reserved
  | malformed
  deriving DecidableEq

/-- The fault in words, for the name of something. -/
def NameFault.message (what name : String) : NameFault → String
  | .missing => what ++ " is required"
  | .raw => what ++ " `" ++ name ++ "` must not be a raw identifier"
  | .reserved => what ++ " `" ++ name ++ "` is a reserved keyword"
  | .malformed => what ++ " `" ++ name ++ "` is not a valid identifier"

/-- Whether the text starts like a raw identifier. -/
def isRawStart : List Char → Bool
  | 'r' :: '#' :: _ => true
  | _ => false

/-- The one word that the text consists of, blanks and comments aside, unless it is reserved. -/
def soleWord? (text : String) : Option String :=
  match Source.tokens? text with
  | some [.word w] => if Source.isReserved w then none else some w
  | _ => none

/-- Accepts the names that a type, a field or a part of a namespace may be given. The faults are
looked for in this order: nothing but blanks, a raw identifier, a reserved word, no identifier. -/
def checkName (name : String) : Except NameFault Unit :=
  if (Text.trim name).isEmpty then .error .missing
  else if isRawStart name.toList then .error .raw
  else if Source.isReserved name then .error .reserved
  else if (soleWord? name).isNone then .error .malformed
  else .ok ()

/-- Whether the text, as it stands, is an identifier, raw or not. -/
def isIdentifier (text : String) : Bool :=
  match text.toList with
  | 'r' :: '#' :: rest => Text.Identifier.isWord rest && !Source.neverRaw.contains (.ofList rest)
  | cs => Text.Identifier.isWord cs

/-- Whether the text can name an item: an identifier that is not reserved. -/
def isItemName (text : String) : Bool := isIdentifier text && !Source.isReserved text

/-- Whether the text can name a module: as for items, and `try` as well. -/
def isModuleName (text : String) : Bool :=
  isIdentifier text && (!Source.isReserved text || text == "try")

end TypeFoundry
