import TypeFoundry.Compiler.Diagnostics
import TypeFoundry.Crate.Describe
import TypeFoundry.Crate.Merge
import TypeFoundry.Files.Path
import TypeFoundry.Modules.Arena
import TypeFoundry.Source.Item.Layout
import TypeFoundry.Text.SnakeCase
import TypeFoundry.World

/-!
# The compiler

The compiler merges units into a crate, hands it to the toolchain and loads what comes back. The
units of all modules of an arena take part as references, so a type can refer to those that were
made before it. Every compilation has an identity and a directory of its own.
-/

set_option autoImplicit false

namespace TypeFoundry

/-- Where and how crates are compiled. -/
structure Compiler where
  toolchain : String
  buildDir : String
  level : UInt8
  deriving DecidableEq

/-- The name of the crate of one compilation. -/
def crateName (label : String) (id : ModuleId) : String :=
  "forge_" ++ Text.snakeCase label ++ "_" ++ id.simple

namespace Compiler

/-- The unit to be compiled that the text is. -/
def readTarget (label source : String) : Except Failure Source.SourceUnit :=
  match Source.SourceUnit.read source with
  | .ok unit => .ok unit
  | .error position => .error (.unreadable (label ++ ".rs") position)

/-- The units of the modules of the arena, as far as they can be read. -/
def references (arena : Arena) : List Source.SourceUnit :=
  arena.units.filterMap Source.SourceUnit.read?

/-- The crate that the units make up, with the descriptions of their structs. -/
def crateOf (targets references : List Source.SourceUnit) : Source.SourceUnit :=
  Crate.describe (Crate.merge targets references) (Crate.described targets)

/-- What the toolchain is called with, for a crate that stands in a file of the directory. -/
def arguments (c : Compiler) (name dir file : String) : List String :=
  ["--edition", "2021", "--crate-type", "cdylib", "--crate-name", name, "--error-format", "json",
    "--cap-lints", "allow", "-C", "opt-level=" ++ toString c.level.toNat, "--out-dir", dir, file]

/-- Hands the crate to the toolchain; the answer is what comes of loading the module. -/
def invoke (c : Compiler) (i : Invocation) (file : String) : Action Loaded := do
  let w ← get
  match w.toolchain.missing? c.toolchain with
  | some cause => Action.fail (.toolchain c.toolchain cause)
  | none =>
    set { w with invocations := w.invocations ++ [i] }
    match w.toolchain.reply w.invocations.length i with
    | .failure stderr => Action.fail (.compilation (failureDiagnostics file stderr))
    | .success loaded => return loaded

/-- The bytes in front of the first that is zero. -/
def upToZero (bytes : List UInt8) : List UInt8 := bytes.takeWhile (· ≠ 0)

/-- The types that the loaded module describes. -/
def layoutsOf : Loaded → Except LoadFault (List TypeLayout)
  | .refused => .error .unloadable
  | .noDescriptor => .error .noDescriptor
  | .descriptor bytes =>
    match Text.decodeUtf8 (upToZero bytes) with
    | .error fault => .error (.encoding fault)
    | .ok text =>
      match Descriptor.read text with
      | .error fault => .error (.descriptor fault)
      | .ok layouts => .ok layouts

/-- The file of the compiled module. -/
def artifactPath (dir name : String) : String := Files.join dir ("lib" ++ name ++ ".so")

/-- Compiles the units into a module. A crate with unfinished items cannot be laid out, which aborts
the compilation. -/
def build (c : Compiler) (arena : Arena) (units : List String) (label : String)
    (origin : Origin) : Action PendingModule := do
  let targets ← Action.ofExcept (units.mapM (readTarget label))
  let id ← Action.freshId
  let name := crateName label id
  let dir := Files.join c.buildDir name
  let file := Files.join dir "lib.rs"
  let crate := crateOf targets (references arena)
  Action.ensureDirectory dir
  if !Source.areFinished crate.items then throw .aborted
  Action.writeFile file crate.text
  let loaded ← c.invoke ⟨name, c.arguments name dir file, crate.text⟩ file
  match layoutsOf loaded with
  | .error fault => Action.fail (.load (artifactPath dir name) fault)
  | .ok layouts => return ⟨id, origin, artifactPath dir name, units, layouts⟩

/-- Compiles the unit into a module that defines the type. -/
def compile (c : Compiler) (arena : Arena) (source : String) (path : TypePath) :
    Action PendingModule := do
  let pending ← c.build arena [source] path.name .dynamic
  if pending.defines path then return pending
  else Action.fail (.typeNotFound path pending.id)

/-- Compiles the units into one module for the start. -/
def compileAssembly (c : Compiler) (arena : Arena) (units : List String) : Action PendingModule :=
  c.build arena units "assembly" .assembly

end Compiler

end TypeFoundry
