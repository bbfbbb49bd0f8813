import TypeFoundry.Failure
import TypeFoundry.Files.Disk

/-!
# The world around a foundry

The disk, the toolchain, and the source of fresh identities. Any operation on the disk can meet an
obstacle that has nothing to do with what is on the disk. The toolchain answers each crate that it is
handed; what it was handed is kept. An `Action` runs in the world and ends with an answer or a halt;
what it did to the world stays done either way.
-/

set_option autoImplicit false

namespace TypeFoundry

/-- Why an operation on the disk fails that could have been done. -/
structure Obstacle where
  cause : Files.Cause
  /-- What a write that is broken off leaves in the file. -/
  leaves : Option Files.Content

/-- A crate as it is handed to the toolchain. -/
structure Invocation where
  crate : String
  arguments : List String
  /-- The text of the crate. -/
  text : String

/-- What comes of loading a compiled module. -/
inductive Loaded where
  /-- It cannot be loaded, or it does not describe itself. -/
  | refused
  | noDescriptor
  | descriptor (bytes : List UInt8)

/-- How the toolchain answers. -/
inductive Reply where
  | failure (stderr : List UInt8)
  | success (loaded : Loaded)

/-- The programs that compile crates. -/
structure Toolchain where
  /-- Why the program cannot be started, if it cannot. -/
  missing? : String → Option Files.Cause
  /-- The answer to the crate with that many crates before it. -/
  reply : Nat → Invocation → Reply

/-- The state of the world. -/
structure World where
  disk : Files.Disk
  cwd : Files.Location
  /-- The obstacle that the operation with that many operations before it meets. -/
  obstacles : Nat → Option Obstacle
  operations : Nat
  toolchain : Toolchain
  /-- The crates that the toolchain was handed, the oldest first. -/
  invocations : List Invocation
  /-- The fresh identities in the order in which they are drawn. -/
  ids : Nat → ModuleId
  drawn : Nat

/-- What runs in the world and may fail or be aborted. -/
abbrev Action (α : Type) := ExceptT Halt (StateM World) α

namespace Action

/-- Ends with the failure. -/
def fail {α : Type} (f : Failure) : Action α := throw (.failure f)

/-- The answer, or the failure in its place. -/
def ofExcept {α : Type} (r : Except Failure α) : Action α :=
  match r with
  | .ok a => pure a
  | .error f => fail f

/-- The answer, or the halt in its place. -/
def ofHalting {α : Type} (r : Except Halt α) : Action α :=
  match r with
  | .ok a => pure a
  | .error h => throw h

/-- Draws a fresh identity. -/
def freshId : Action ModuleId := do
  let w ← get
  set { w with drawn := w.drawn + 1 }
  return w.ids w.drawn

/-! ## Operations on the disk -/

/-- The obstacle that the next operation meets. -/
def nextObstacle : Action (Option Obstacle) := do
  let w ← get
  set { w with operations := w.operations + 1 }
  return w.obstacles w.operations

/-- The result of an operation that looks at the disk. -/
def look {α : Type} (f : Files.Disk → Files.Location → Except Files.Cause α) :
    Action (Except Files.Cause α) := do
  match ← nextObstacle with
  | some o => return .error o.cause
  | none => do
    let w ← get
    return f w.disk w.cwd

/-- Carries out an operation that changes the disk. -/
def change (f : Files.Disk → Files.Location → Except Files.Cause Files.Disk) :
    Action (Except Files.Cause Unit) := do
  match ← look f with
  | .error cause => return .error cause
  | .ok disk => do
    modify fun w => { w with disk := disk }
    return .ok ()

/-- The answer of an operation at the path, or a failure there. -/
def atPath {α : Type} (path : String) (r : Except Files.Cause α) : Action α :=
  match r with
  | .ok a => pure a
  | .error cause => fail (.io path cause)

/-- Whether a file is at the path. -/
def isFile (path : String) : Action Bool := do
  let w ← get
  return w.disk.isFile w.cwd path

/-- The text of the file. -/
def readFile (path : String) : Action (Except Files.Cause String) := look fun d cwd => d.read cwd path

/-- The names in the directory, sorted. -/
def listDirectory (path : String) : Action (Except Files.Cause (List String)) :=
  look fun d cwd => d.list cwd path

/-- Writes the text into the file; if it is broken off it may leave something else there. -/
def writeFile (path text : String) : Action Unit := do
  let w ← get
  match ← change fun d cwd => d.write cwd path (.text text) with
  | .ok _ => return ()
  | .error cause => do
    let left := (w.obstacles w.operations).bind (·.leaves)
    if let some content := left then
      if let .ok disk := w.disk.write w.cwd path content then
        modify fun w => { w with disk := disk }
    fail (.io path cause)

/-- Gives the file a new name. -/
def renameFile (source target : String) : Action Unit := do
  atPath target (← change fun d cwd => d.rename cwd source target)

/-- Makes the directory that the parts, last part first, lead to from `start`, and those around it. -/
def makeDirectories (start : Files.Location) : List String → Action (Except Files.Cause Unit)
  | [] => return .ok ()
  | part :: parts => do
    let mkdir := change fun d _ => d.mkdir start (part :: parts).reverse
    let settle (cause : Files.Cause) : Action (Except Files.Cause Unit) := do
      let w ← get
      if w.disk.leadsToDirectory start (part :: parts).reverse then return .ok ()
      else return .error cause
    match ← mkdir with
    | .ok _ => return .ok ()
    | .error cause =>
      if cause = .notFound then do
        match ← makeDirectories start parts with
        | .error cause => return .error cause
        | .ok _ =>
          match ← mkdir with
          | .ok _ => return .ok ()
          | .error cause => settle cause
      else settle cause

/-- Makes the directory at the path and those around it, as far as they are missing. -/
def ensureDirectory (path : String) : Action Unit := do
  if path.toList.contains '\x00' then fail (.io path .nulInName)
  else
    let p := Files.Path.ofText path
    let w ← get
    atPath path (← makeDirectories (Files.Disk.startOf w.cwd p) p.parts.reverse)

end Action

end TypeFoundry
