import TypeFoundry.Compiler
import TypeFoundry.Files.Store
import TypeFoundry.Modules.Catalog
import TypeFoundry.Settings
import TypeFoundry.Synthesis.AddField

/-!
# The foundry

A foundry makes types on request: it synthesizes the unit of a type, compiles it, stores it and
enters the type into the catalog. A module joins the arena only once its unit is stored. At the
start a foundry can compile all stored units into one module, whose types make up the manifest.
-/

set_option autoImplicit false

namespace TypeFoundry

/-- An open foundry. -/
structure Foundry where
  store : Store
  compiler : Compiler
  /-- The modules that new types are declared in. -/
  modules : List String
  arena : Arena
  catalog : Catalog
  deriving DecidableEq

/-- The answer to the request for a new type. -/
structure CreatedType where
  path : TypePath
  file : String
  deriving DecidableEq

/-- The answer to the request for a further field. -/
structure AddedField where
  path : TypePath
  field : String
  file : String
  deriving DecidableEq

/-- A step of a foundry: it changes the foundry and the world and may fail or be aborted. -/
abbrev Step (α : Type) := ExceptT Halt (StateM (Foundry × World)) α

namespace Step

/-- The step that only acts in the world. -/
def ofAction {α : Type} (a : Action α) : Step α := fun (f, w) =>
  let (r, w) := a.run w
  (r, (f, w))

/-- The foundry as it is. -/
def foundry : Step Foundry := do return (← get).1

/-- Puts the foundry into a new state. -/
def put (f : Foundry) : Step Unit := modify fun s => (f, s.2)

end Step

namespace Foundry

/-! ## Opening -/

/-- The compiler of the settings. -/
def compilerOf (s : Settings) : Compiler := ⟨s.toolchain, s.buildDir, s.level⟩

/-- The texts of the files that are units. -/
def readUnits : List (String × String) → Action (List String)
  | [] => return []
  | (_, file) :: rest => do
    let source ← Action.atPath file (← Action.readFile file)
    let others ← readUnits rest
    if (Source.SourceUnit.read? source).isSome then return source :: others else return others

/-- The texts of all units in the directories, in their order. -/
def storedUnits : List String → Action (List String)
  | [] => return []
  | dir :: dirs => do
    let units ← readUnits (← Store.unitsIn dir)
    return units ++ (← storedUnits dirs)

/-- The foundry with all stored units compiled into one module, if there are any. -/
def preload (f : Foundry) (s : Settings) : Action Foundry := do
  let units ← storedUnits (s.sourceDir :: s.staticDirs)
  if units.isEmpty then return f
  else
    let pending ← f.compiler.compileAssembly f.arena units
    return { f with
      arena := f.arena.push pending
      catalog := f.catalog.extend (f.arena.next pending).types }

/-- Opens a foundry with the settings. -/
def start (s : Settings) : Action Foundry := do
  Action.ofExcept s.check
  let modules ← Action.ofExcept s.segments
  let f : Foundry := ⟨⟨s.sourceDir⟩, compilerOf s, modules, .empty, .empty⟩
  if s.preload then f.preload s else return f

/-! ## Requests -/

/-- Compiles, stores, admits and registers the type; the answer is the file of its unit. -/
def establish (name source : String) (path : TypePath) : Step String := do
  let f ← Step.foundry
  let pending ← Step.ofAction (f.compiler.compile f.arena source path)
  let file ← Step.ofAction (f.store.save name source)
  let (result, arena) := f.arena.commit pending path
  Step.put { f with arena := arena }
  let handle ← Step.ofAction (Action.ofExcept result)
  Step.put { f with arena := arena, catalog := (f.catalog.register handle).2 }
  return file

/-- Makes a new type. -/
def createType (r : TypeRequest) : Step CreatedType := do
  let f ← Step.foundry
  Step.ofAction (Action.ofExcept r.check)
  if ← Step.ofAction (f.store.exists? r.name) then throw (.failure (.alreadyExists r.name))
  else
    let path : TypePath := ⟨f.modules, r.name⟩
    let source ← Step.ofAction (Action.ofHalting (Synthesis.newType r.name f.modules))
    return ⟨path, ← establish r.name source path⟩

/-- Adds a field to a type. -/
def addField (typeName : String) (r : FieldRequest) : Step AddedField := do
  let f ← Step.foundry
  Step.ofAction (Action.ofExcept (requireName "type name" typeName))
  Step.ofAction (Action.ofExcept r.check)
  if ← Step.ofAction (f.store.exists? typeName) then
    let source ← Step.ofAction (f.store.load typeName)
    let path ← Step.ofAction (Action.ofExcept (Synthesis.typePath source typeName))
    let updated ← Step.ofAction
      (Action.ofHalting (Synthesis.addField source typeName r f.catalog.resolve))
    return ⟨path, r.name, ← establish typeName updated path⟩
  else throw (.failure (.notFound typeName))

/-! ## Lists -/

/-- The static types of the namespace and all registered types, one for each full name. -/
def listTypes (f : Foundry) : List TypeListing := f.catalog.listAll f.modules

/-- Everything that was registered. -/
def listEntries (f : Foundry) : List EntryListing := f.catalog.listEntries

/-- The types of the namespace whose values have an identity. -/
def entities (f : Foundry) : List TypeHandle := f.catalog.entities f.modules

end Foundry

/-- The answer as a JSON value. -/
def CreatedType.toJson (c : CreatedType) : Json :=
  .record [("fullName", .text c.path.display), ("sourcePath", .text c.file)]

/-- The answer as a JSON value. -/
def AddedField.toJson (a : AddedField) : Json :=
  .record [("fullName", .text a.path.display), ("fieldName", .text a.field),
    ("sourcePath", .text a.file)]

end TypeFoundry
