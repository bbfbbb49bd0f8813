import TypeFoundry.Files.Path
import TypeFoundry.World

/-!
# The store of units

The store keeps the unit of every type in a file of its own, named for the type. A unit is written
beside its place and then renamed, so that a file of the store is never half written. Files with
other endings, files whose names start with a dot, and directories are no units.
-/

set_option autoImplicit false

namespace TypeFoundry

/-- A directory of units. -/
structure Store where
  root : String
  deriving DecidableEq

namespace Store

/-- The ending of the file of a unit. -/
def ending : String := ".rs"

/-- The file of the unit of the type. -/
def path (s : Store) (name : String) : String := Files.join s.root (name ++ ending)

/-- The file in which the unit is written before it is put into its place. -/
def stagingPath (s : Store) (name : String) : String :=
  Files.join s.root ("." ++ name ++ ending ++ ".tmp")

/-- Whether there is a unit of the type. -/
def exists? (s : Store) (name : String) : Action Bool := Action.isFile (s.path name)

/-- Writes the unit of the type, over the one that is there; the answer is its file. -/
def save (s : Store) (name source : String) : Action String := do
  Action.ensureDirectory s.root
  Action.writeFile (s.stagingPath name) source
  Action.renameFile (s.stagingPath name) (s.path name)
  return s.path name

/-- The unit of the type. -/
def load (s : Store) (name : String) : Action String := do
  match ← Action.readFile (s.path name) with
  | .ok source => return source
  | .error cause =>
    if cause = .notFound then Action.fail (.notFound name)
    else Action.fail (.io (s.path name) cause)

/-- The type whose unit has that file name, if it is the name of a unit. -/
def unitName? (file : String) : Option String :=
  match file.toList.reverse with
  | 's' :: 'r' :: '.' :: stem =>
    if stem.isEmpty || stem.getLast? = some '.' then none else some (.ofList stem.reverse)
  | _ => none

/-- The units in the directory by name, each with its file. A directory that is missing has none. -/
def unitsIn (dir : String) : Action (List (String × String)) := do
  match ← Action.listDirectory dir with
  | .ok files =>
    let w ← get
    let units := files.filterMap fun file =>
      if w.disk.isFile w.cwd (Files.join dir file) then
        (unitName? file).map fun name => (name, Files.join dir file)
      else none
    return units.mergeSort fun a b => compare a.1 b.1 != .gt
  | .error cause =>
    if cause = .notFound then return [] else Action.fail (.io dir cause)

/-- The types that have a unit, sorted. -/
def list (s : Store) : Action (List String) := do
  return (← unitsIn s.root).map (·.1)

end Store

end TypeFoundry
