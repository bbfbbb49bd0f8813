import TypeFoundry.Modules.Handle

/-!
# The registry

The types that were made by requests, the oldest first. Nothing is removed: the last entry of a full
name is the one that counts. A type that is there already is not entered again.
-/

set_option autoImplicit false

namespace TypeFoundry

/-- The types made by requests, the oldest first. -/
structure Registry where
  entries : List TypeHandle
  deriving DecidableEq

/-- The handles with the new one in the place of the one of its full name, or at the end. -/
def putByName (h : TypeHandle) : List TypeHandle → List TypeHandle
  | [] => [h]
  | g :: gs => if g.path = h.path then h :: gs else g :: putByName h gs

/-- One handle for each full name, the last one, in the order in which the names first occur. -/
def latestByName (hs : List TypeHandle) : List TypeHandle :=
  hs.foldl (fun latest h => putByName h latest) []

/-- The last handle of that full name. -/
def lastNamed? (path : TypePath) (hs : List TypeHandle) : Option TypeHandle :=
  hs.reverse.find? (·.path = path)

namespace Registry

/-- The registry without entries. -/
def empty : Registry := ⟨[]⟩

/-- Whether the type is entered already. -/
def holds (r : Registry) (h : TypeHandle) : Bool := r.entries.any (·.same h)

/-- Enters the type, unless it is there; the answer is whether it was entered. -/
def register (r : Registry) (h : TypeHandle) : Bool × Registry :=
  if r.holds h then (false, r) else (true, ⟨r.entries ++ [h]⟩)

/-- The last entry of that full name. -/
def find? (r : Registry) (path : TypePath) : Option TypeHandle := lastNamed? path r.entries

/-- The last entry of each full name, in the order in which the names were first entered. -/
def latest (r : Registry) : List TypeHandle := latestByName r.entries

/-- How many entries there are. -/
def size (r : Registry) : Nat := r.entries.length

end Registry

end TypeFoundry
