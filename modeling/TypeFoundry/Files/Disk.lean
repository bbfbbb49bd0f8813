import TypeFoundry.Files.Cause
import TypeFoundry.Text.Lines
import TypeFoundry.Text.Utf8

/-!
# The disk

A disk maps locations to files and directories; the root is always there. Paths are followed part by
part from the root or from the current directory, and every part but the last must be a directory.
`mkdir`, `write`, `rename`, `read`, `list` and `remove` say when they fail and how the disk is after
them; renaming is one step.
-/

set_option autoImplicit false

namespace TypeFoundry.Files

/-- What a file holds: a text, or bytes that are no text. -/
inductive Content where
  | text (s : String)
  | binary (bytes : List UInt8)
  deriving DecidableEq

/-- The content that consists of the bytes. -/
def Content.ofBytes (bytes : List UInt8) : Content :=
  match Text.decodeUtf8 bytes with
  | .ok s => .text s
  | .error _ => .binary bytes

/-- The names from the root to a file or directory. -/
abbrev Location := List String

/-- What is at a location. -/
inductive Entry where
  | file (content : Content)
  | directory
  deriving DecidableEq

/-- The files and directories, the root aside. -/
structure Disk where
  entries : List (Location × Entry)
  deriving DecidableEq

/-- The parts of a path as written. -/
structure Path where
  absolute : Bool
  parts : List String

namespace Disk

/-- The disk with an empty root. -/
def empty : Disk := ⟨[]⟩

/-- What is at the location. -/
def entry? (d : Disk) (loc : Location) : Option Entry :=
  if loc = [] then some .directory else (d.entries.find? fun e => e.1 = loc).map (·.2)

/-- The disk without what is at the location. -/
def erase (d : Disk) (loc : Location) : Disk := ⟨d.entries.filter fun e => e.1 ≠ loc⟩

/-- The disk without what is at the location or below it. -/
def eraseAll (d : Disk) (loc : Location) : Disk := ⟨d.entries.filter fun e => !loc.isPrefixOf e.1⟩

/-- The disk with the entry at the location. -/
def put (d : Disk) (loc : Location) (e : Entry) : Disk := ⟨(loc, e) :: (d.erase loc).entries⟩

/-- The name of the location in the directory, if it stands right in it. -/
def nameIn? (dir loc : Location) : Option String :=
  match loc.getLast? with
  | some name => if loc.dropLast = dir then some name else none
  | none => none

/-- The names in the directory. -/
def names (d : Disk) (dir : Location) : List String := d.entries.filterMap fun e => nameIn? dir e.1

end Disk

/-! ## Following paths -/

/-- The longest name in bytes. -/
def maxName : Nat := 255

/-- The path that the text is. Empty parts and single dots do not count. -/
def Path.ofText (text : String) : Path :=
  ⟨text.startsWith "/", (Text.columns '/' text).filter fun part => part ≠ "" ∧ part ≠ "."⟩

namespace Disk

/-- The directory that the parts lead to from the given one. -/
def follow (d : Disk) : Location → List String → Except Cause Location
  | loc, [] => .ok loc
  | loc, part :: parts =>
    if part = ".." then follow d loc.dropLast parts
    else if maxName < part.utf8ByteSize then .error .nameTooLong
    else
      match d.entry? (loc ++ [part]) with
      | none => .error .notFound
      | some (.file _) => .error .notADirectory
      | some .directory => follow d (loc ++ [part]) parts

/-- The location that the parts lead to from the given directory; all but the last must be
directories. -/
def locate (d : Disk) (start : Location) (parts : List String) : Except Cause Location :=
  match parts.getLast? with
  | none => .ok start
  | some last => do
    let dir ← d.follow start parts.dropLast
    if last = ".." then .ok dir.dropLast
    else if maxName < last.utf8ByteSize then .error .nameTooLong
    else .ok (dir ++ [last])

/-- Where a path starts. -/
def startOf (cwd : Location) (path : Path) : Location := if path.absolute then [] else cwd

/-- The location of the path, seen from the current directory. -/
def locationOf (d : Disk) (cwd : Location) (text : String) : Except Cause Location :=
  if text.toList.contains '\x00' then .error .nulInName
  else if text = "" then .error .notFound
  else
    let path := Path.ofText text
    d.locate (startOf cwd path) path.parts

/-! ## Operations -/

/-- Whether a file is at the path. -/
def isFile (d : Disk) (cwd : Location) (path : String) : Bool :=
  match d.locationOf cwd path with
  | .ok loc =>
    match d.entry? loc with
    | some (.file _) => true
    | _ => false
  | .error _ => false

/-- The content of the file. -/
def content (d : Disk) (cwd : Location) (path : String) : Except Cause Content := do
  let loc ← d.locationOf cwd path
  match d.entry? loc with
  | some (.file content) => .ok content
  | some .directory => .error .isADirectory
  | none => .error .notFound

/-- The text of the file. -/
def read (d : Disk) (cwd : Location) (path : String) : Except Cause String := do
  match ← d.content cwd path with
  | .text s => .ok s
  | .binary _ => .error .notText

/-- The names in the directory, sorted. -/
def list (d : Disk) (cwd : Location) (path : String) : Except Cause (List String) := do
  let loc ← d.locationOf cwd path
  match d.entry? loc with
  | some .directory => .ok ((d.names loc).mergeSort fun a b => compare a b != .gt)
  | some (.file _) => .error .notADirectory
  | none => .error .notFound

/-- The disk with the content in the file, which need not be there. -/
def write (d : Disk) (cwd : Location) (path : String) (content : Content) : Except Cause Disk := do
  let loc ← d.locationOf cwd path
  match d.entry? loc with
  | some .directory => .error .isADirectory
  | _ => .ok (d.put loc (.file content))

/-- The disk with the file under its new name, in the place of a file that has it. -/
def rename (d : Disk) (cwd : Location) (source target : String) : Except Cause Disk := do
  let old ← d.locationOf cwd source
  let new ← d.locationOf cwd target
  match d.entry? old, d.entry? new with
  | some (.file _), some .directory => .error .isADirectory
  | some (.file content), _ => .ok ((d.erase old).put new (.file content))
  | some .directory, _ => .error .isADirectory
  | none, _ => .error .notFound

/-- The disk without the file, or without the directory and all in it. -/
def remove (d : Disk) (cwd : Location) (path : String) : Except Cause Disk := do
  let loc ← d.locationOf cwd path
  match d.entry? loc with
  | some _ => .ok (d.eraseAll loc)
  | none => .error .notFound

/-- Whether the parts lead to a directory. -/
def leadsToDirectory (d : Disk) (start : Location) (parts : List String) : Bool :=
  (d.follow start parts).isOk

/-- The disk with the directory that the parts name; the directory around it must be there. -/
def mkdir (d : Disk) (start : Location) (parts : List String) : Except Cause Disk := do
  let loc ← d.locate start parts
  match d.entry? loc with
  | some _ => .error .alreadyThere
  | none => .ok (d.put loc .directory)

end Disk

end TypeFoundry.Files
