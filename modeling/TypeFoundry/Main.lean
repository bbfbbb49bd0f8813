import TypeFoundry.Command
import TypeFoundry.Json.Write

/-!
# The program

Standard input lists the files that a command may look at, one path a line. They are read into a
disk, the command runs there, and what it wrote is written out. No toolchain can be started from
here, so a request that needs one reports that.
-/

set_option autoImplicit false

namespace TypeFoundry.Program

open Files (Disk Location)

/-- The disk with the file and the directories around it. -/
def putFile (d : Disk) (loc : Location) (bytes : List UInt8) : Disk :=
  let dirs := (List.range loc.length).map loc.take
  let d := dirs.foldl (fun d dir => if (d.entry? dir).isSome then d else d.put dir .directory) d
  d.put loc (.file (.ofBytes bytes))

/-- The world with the disk, whose identities start at the given one. -/
def worldOf (d : Disk) (cwd : Location) (first : Nat) : World where
  disk := d
  cwd := cwd
  obstacles := fun _ => none
  operations := 0
  toolchain := ⟨fun _ => some (.stated "no toolchain can be started"), fun _ _ => .success .refused⟩
  invocations := []
  ids := fun n => ⟨.ofNat 128 (first + n)⟩
  drawn := 0

/-- The files that the command line names itself. -/
def namedFiles (line : List String) : List String :=
  match CommandLine.parse line with
  | .ok (o, _) => o.config.toList
  | .error _ => []

/-- The paths on standard input. -/
def listedFiles : IO (List String) := do
  let text ← (← IO.getStdin).readToEnd
  return (Text.lines text).filter (· ≠ "")

/-- The disk with those of the files that can be read. -/
def readFiles (cwd : Location) (paths : List String) : IO Disk :=
  paths.foldlM (fun (d : Disk) (path : String) => do
    let p := Files.Path.ofText path
    match ← (IO.FS.readBinFile path).toBaseIO with
    | .ok bytes => return putFile d (Disk.startOf cwd p ++ p.parts) bytes.toList
    | .error _ => return d) Disk.empty

/-- The path of the location. -/
def pathOf (loc : Location) : String := "/" ++ "/".intercalate loc

/-- Writes out what is new on the disk, directories first. -/
def writeFiles (old new : Disk) : IO Unit := do
  let fresh := new.entries.filter fun e => !old.entries.contains e
  for (loc, entry) in fresh.reverse do
    if let .directory := entry then IO.FS.createDirAll (pathOf loc)
  for (loc, entry) in fresh do
    if let .file (.text s) := entry then IO.FS.writeFile (pathOf loc) s

end TypeFoundry.Program

open TypeFoundry Program in
/-- Runs the command line. -/
def main (line : List String) : IO UInt32 := do
  let cwd := (Files.Path.ofText (toString (← IO.currentDir))).parts
  let disk ← readFiles cwd ((← listedFiles) ++ namedFiles line)
  let bytes ← IO.getRandomBytes 16
  let first := bytes.toList.foldl (fun n b => n * 256 + b.toNat) 0
  let (ending, w) := CommandLine.run "rustc" line (worldOf disk cwd first)
  writeFiles disk w.disk
  if let some answer := ending.output? then IO.println answer.pretty
  return .ofNat ending.code
