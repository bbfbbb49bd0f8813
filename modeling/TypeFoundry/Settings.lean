import TypeFoundry.Files.Path
import TypeFoundry.Json.Read
import TypeFoundry.Naming.Namespace
import TypeFoundry.Toml

/-!
# Settings

Where a foundry keeps its units and builds its modules, the namespace of its types, and how it
compiles. Settings come from a file, from JSON or from code; each of them has a default.
-/

set_option autoImplicit false

namespace TypeFoundry

/-- The settings of a foundry. -/
structure Settings where
  /-- The directory with one unit for every type that was made. -/
  sourceDir : String
  /-- The directory for compiled modules. -/
  buildDir : String
  /-- The modules that types are declared in. -/
  namespaceText : String
  /-- The program that compiles crates. -/
  toolchain : String
  /-- How much the toolchain optimises. -/
  level : UInt8
  /-- Whether all stored units are compiled into one module at the start. -/
  preload : Bool
  /-- Further directories of units that are compiled at the start. -/
  staticDirs : List String
  deriving DecidableEq

namespace Settings

/-- The settings that hold where nothing else is said. -/
def standard (toolchain : String) : Settings where
  sourceDir := "models/generated"
  buildDir := "target/typeforge"
  namespaceText := "models::generated"
  toolchain := toolchain
  level := 0
  preload := true
  staticDirs := []

/-- The standard settings with everything below one directory. -/
def inDir (toolchain dir : String) : Settings :=
  { standard toolchain with
    sourceDir := Files.join (Files.join dir "models") "generated"
    buildDir := Files.join dir "build" }

/-- The modules of the namespace. -/
def segments (s : Settings) : Except Failure (List String) := Namespace.segments s.namespaceText

/-- Fails if the namespace lists no modules or the level is above 3. -/
def check (s : Settings) : Except Failure Unit := do
  let _ ← s.segments
  if s.level > 3 then throw (.settings (.level s.level.toNat))

/-- The names under which settings are written. -/
def keys : List String :=
  ["source_dir", "build_dir", "namespace", "rustc", "opt_level", "preload", "static_source_dirs"]

/-- What the value denotes; the default if there is no value, nothing if it denotes nothing. -/
def valueOr {α β : Type} (default : β) (read : α → Option β) : Option α → Option β
  | none => some default
  | some a => read a

/-- The settings that the JSON value describes, with defaults for what it leaves out. -/
def ofJson? (toolchain : String) (j : Json) : Option Settings :=
  let d := standard toolchain
  match j.known? keys true with
  | some [sourceDir, buildDir, namespaceText, program, level, preload, staticDirs] =>
    return {
      sourceDir := ← valueOr d.sourceDir Json.text? sourceDir
      buildDir := ← valueOr d.buildDir Json.text? buildDir
      namespaceText := ← valueOr d.namespaceText Json.text? namespaceText
      toolchain := ← valueOr d.toolchain Json.text? program
      level := ← valueOr d.level (fun j => (j.natural? 256).map .ofNat) level
      preload := ← valueOr d.preload Json.bool? preload
      staticDirs := ← valueOr d.staticDirs (Json.list? Json.text?) staticDirs }
  | _ => none

/-- The settings as a JSON value. -/
def toJson (s : Settings) : Json :=
  .record [("source_dir", .text s.sourceDir), ("build_dir", .text s.buildDir),
    ("namespace", .text s.namespaceText), ("rustc", .text s.toolchain),
    ("opt_level", .natural s.level.toNat), ("preload", .bool s.preload),
    ("static_source_dirs", .array (s.staticDirs.map .text))]

/-- The settings with one entry of a file applied, if it is one of theirs. -/
def withEntry? (s : Settings) : String × Toml.Value → Option Settings
  | ("source_dir", .text dir) => some { s with sourceDir := dir }
  | ("build_dir", .text dir) => some { s with buildDir := dir }
  | ("namespace", .text text) => some { s with namespaceText := text }
  | ("rustc", .text program) => some { s with toolchain := program }
  | ("opt_level", .integer (.ofNat n)) =>
    if n < 256 then some { s with level := .ofNat n } else none
  | ("preload", .bool b) => some { s with preload := b }
  | ("static_source_dirs", .texts dirs) => some { s with staticDirs := dirs }
  | _ => none

/-- The settings that the text of a file describes, with defaults for what it leaves out. -/
def ofToml? (toolchain text : String) : Option Settings := do
  (← Toml.read? text).foldlM withEntry? (standard toolchain)

end Settings

end TypeFoundry
