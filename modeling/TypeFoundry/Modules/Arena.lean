import TypeFoundry.Modules.Handle

/-!
# The arena of modules

Modules are never unloaded. The arena keeps them in the order in which they joined; the generation
of a module is its place in that order, from 1 on.
-/

set_option autoImplicit false

namespace TypeFoundry

/-- A compiled module that has not joined the arena. -/
structure PendingModule where
  id : ModuleId
  origin : Origin
  artifact : String
  units : List String
  layouts : List TypeLayout

/-- A module of the arena, with the units that it was compiled from. -/
structure LoadedModule where
  info : ModuleInfo
  artifact : String
  units : List String
  types : List TypeHandle
  deriving DecidableEq

/-- How many modules there are, and the generation of the last. -/
structure ModuleStats where
  modules : Nat
  latestGeneration : Nat
  deriving DecidableEq

/-- All modules that have joined, the oldest first. -/
structure Arena where
  modules : List LoadedModule
  deriving DecidableEq

/-- Whether the module describes a type of that full name. -/
def PendingModule.defines (p : PendingModule) (path : TypePath) : Bool :=
  p.layouts.any (·.path = path)

/-- The module with the given generation. -/
def PendingModule.load (p : PendingModule) (generation : Nat) : LoadedModule :=
  let info : ModuleInfo := ⟨p.id, generation, p.origin⟩
  ⟨info, p.artifact, p.units, p.layouts.map (⟨·, info⟩)⟩

/-- The first type of that full name. -/
def LoadedModule.find? (m : LoadedModule) (path : TypePath) : Option TypeHandle :=
  m.types.find? (·.path = path)

namespace Arena

/-- The arena without modules. -/
def empty : Arena := ⟨[]⟩

/-- How many modules have joined. -/
def size (a : Arena) : Nat := a.modules.length

/-- The module that the pending one becomes when it joins. -/
def next (a : Arena) (p : PendingModule) : LoadedModule := p.load (a.size + 1)

/-- The arena with one more module. -/
def push (a : Arena) (p : PendingModule) : Arena := ⟨a.modules ++ [a.next p]⟩

/-- How many modules there are, and the generation of the last. -/
def stats (a : Arena) : ModuleStats :=
  ⟨a.size, ((a.modules.getLast?).map (·.info.generation)).getD 0⟩

/-- The units that all modules were compiled from, in order. -/
def units (a : Arena) : List String := a.modules.flatMap (·.units)

/-- The pending module joins the arena; the answer is its type of the full name. It stays in the
arena also if there is no such type. -/
def commit (a : Arena) (p : PendingModule) (path : TypePath) : Except Failure TypeHandle × Arena :=
  (match (a.next p).find? path with
    | some h => .ok h
    | none => .error (.typeNotFound path p.id),
   a.push p)

end Arena

/-- The count as a JSON value. -/
def ModuleStats.toJson (s : ModuleStats) : Json :=
  .record [("modules", .natural s.modules), ("latest_generation", .natural s.latestGeneration)]

end TypeFoundry
