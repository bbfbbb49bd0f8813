import TypeFoundry.Files.Cause
import TypeFoundry.Json
import TypeFoundry.Modules.ModuleId
import TypeFoundry.Naming.TypePath
import TypeFoundry.Source.Unit
import TypeFoundry.Text.Quoted
import TypeFoundry.Text.Utf8

/-!
# Failures

Every way in which a request can fail, as a cause. `Failure.kind` names the category,
`Failure.message` puts the cause into words and `Failure.response` is the body of an answer. A
request can also be aborted: an item was to be built around a text that is no identifier.
-/

set_option autoImplicit false

namespace TypeFoundry

/-- What the toolchain, or the reader of units, has to say about a place in a file. -/
structure Diagnostic where
  file : String
  line : Nat
  column : Nat
  message : String
  deriving DecidableEq

/-- The diagnostic in one line. -/
def Diagnostic.display (d : Diagnostic) : String :=
  s!"{d.file}:{d.line}:{d.column}: {d.message}"

/-- What is wrong with a request. -/
inductive SchemaFault where
  /-- The name of something: what it is, the name, and what is wrong with it. -/
  | name (what given : String) (fault : NameFault)
  | stated (text : String)
  deriving DecidableEq

/-- Why a unit does not offer what is asked for. -/
inductive UnitFault where
  | unreadable (position : Source.Position)
  | noStruct
  | noNamedFields
  | noModule
  | stated (text : String)
  deriving DecidableEq

/-- What is wrong with the descriptor of a module. -/
inductive DescriptorFault where
  | badLine (line : String)
  | undeclared (owner : TypePath)
  deriving DecidableEq

/-- Why a compiled module cannot be used. -/
inductive LoadFault where
  | unloadable
  | noDescriptor
  | encoding (fault : Text.Utf8Fault)
  | descriptor (fault : DescriptorFault)
  | stated (text : String)
  deriving DecidableEq

/-- What is wrong with the settings. -/
inductive SettingsFault where
  | namespace (text : String)
  | level (n : Nat)
  /-- The file holds no settings. -/
  | unreadable (path : String)
  | stated (text : String)
  deriving DecidableEq

/-- Why a request fails. -/
inductive Failure where
  | schema (fault : SchemaFault)
  | notFound (name : String)
  | alreadyExists (name : String)
  | duplicateField (typeName field : String)
  | invalidReference (field : String)
  | unknownReference (requested : String)
  /-- A text that was to be compiled is no unit. -/
  | unreadable (file : String) (position : Source.Position)
  | compilation (diagnostics : List Diagnostic)
  | typeNotFound (path : TypePath) (module : ModuleId)
  | malformed (typeName : String) (fault : UnitFault)
  | toolchain (program : String) (cause : Files.Cause)
  | load (path : String) (fault : LoadFault)
  | io (path : String) (cause : Files.Cause)
  | settings (fault : SettingsFault)
  deriving DecidableEq

/-- The fault in words. -/
def SchemaFault.message : SchemaFault → String
  | .name what given fault => fault.message what given
  | .stated text => text

/-- The words for a text that is no unit. -/
def unreadableUnit : String := "expected a source unit"

/-- The fault in words. -/
def UnitFault.message : UnitFault → String
  | .unreadable _ => unreadableUnit
  | .noStruct => "no struct with that name"
  | .noNamedFields => "struct has no named fields"
  | .noModule => "namespace module vanished"
  | .stated text => text

/-- The fault in words. -/
def DescriptorFault.message : DescriptorFault → String
  | .badLine line => "bad descriptor line " ++ Text.quoted line
  | .undeclared owner => "field for undeclared type " ++ owner.display

/-- The fault in words. -/
def LoadFault.message : LoadFault → String
  | .unloadable => "the module cannot be loaded"
  | .noDescriptor => "module returned no descriptor"
  | .encoding fault => fault.message
  | .descriptor fault => fault.message
  | .stated text => text

/-- The fault in words. -/
def SettingsFault.message : SettingsFault → String
  | .namespace text => "invalid namespace `" ++ text ++ "`"
  | .level n => "opt_level must be between 0 and 3, got " ++ toString n
  | .unreadable path => path ++ ": the settings cannot be read"
  | .stated text => text

namespace Failure

/-- The diagnostics that a failed compilation leaves. -/
def diagnostics : Failure → List Diagnostic
  | .unreadable file position => [⟨file, position.line, position.column, unreadableUnit⟩]
  | .compilation ds => ds
  | _ => []

/-- The words for a compilation that ended with the diagnostics. -/
def compilationMessage (ds : List Diagnostic) : String :=
  "compilation failed with " ++ toString ds.length ++ " error(s):\n" ++
    "\n".intercalate (ds.map Diagnostic.display)

/-- The category of the failure. -/
def kind : Failure → String
  | .schema _ => "ValidationError"
  | .notFound _ => "NotFound"
  | .alreadyExists _ => "AlreadyExists"
  | .duplicateField _ _ => "DuplicateField"
  | .invalidReference _ => "InvalidReference"
  | .unknownReference _ => "UnknownReferenceType"
  | .unreadable _ _ => "CompilationError"
  | .compilation _ => "CompilationError"
  | .typeNotFound _ _ => "TypeNotFound"
  | .malformed _ _ => "MalformedSource"
  | .toolchain _ _ => "ToolchainError"
  | .load _ _ => "LoadError"
  | .io _ _ => "IoError"
  | .settings _ => "ConfigError"

/-- The failure in words. -/
def message (f : Failure) : String :=
  match f with
  | .schema fault => "invalid schema: " ++ fault.message
  | .notFound name => "no generated definition exists for type `" ++ name ++ "`"
  | .alreadyExists name => "type `" ++ name ++ "` has already been generated"
  | .duplicateField typeName field =>
    "field `" ++ field ++ "` already exists on type `" ++ typeName ++ "`"
  | .invalidReference field => "reference field `" ++ field ++ "` requires a reference type"
  | .unknownReference requested =>
    "type `" ++ requested ++ "` is not loaded; generate it before referencing it"
  | .unreadable _ _ => compilationMessage f.diagnostics
  | .compilation ds => compilationMessage ds
  | .typeNotFound path id =>
    "type `" ++ path.display ++ "` not found in compiled module " ++ id.hyphenated
  | .malformed typeName fault =>
    "malformed source for type `" ++ typeName ++ "`: " ++ fault.message
  | .toolchain program cause =>
    "failed to invoke toolchain `" ++ program ++ "`: " ++ cause.message
  | .load path fault => "failed to load module " ++ path ++ ": " ++ fault.message
  | .io path cause => "I/O error at " ++ path ++ ": " ++ cause.message
  | .settings fault => "invalid configuration: " ++ fault.message

/-- Whether the failure shows a broken contract between the parts of the foundry, not bad input. -/
def isInternal : Failure → Bool
  | .typeNotFound _ _ => true
  | .malformed _ _ => true
  | _ => false

end Failure

/-- The diagnostic as a JSON value. -/
def Diagnostic.toJson (d : Diagnostic) : Json :=
  .record [("file", .text d.file), ("line", .natural d.line), ("column", .natural d.column),
    ("message", .text d.message)]

/-- The body of an answer that reports the failure. -/
def Failure.response (f : Failure) : Json :=
  .record <| [("kind", .text f.kind), ("error", .text f.message)] ++
    if f.diagnostics.isEmpty then []
    else [("diagnostics", .array (f.diagnostics.map Diagnostic.toJson))]

/-- Why a request does not end as wanted: it fails, or it is aborted half-way. -/
inductive Halt where
  | failure (f : Failure)
  | aborted
  deriving DecidableEq

end TypeFoundry
