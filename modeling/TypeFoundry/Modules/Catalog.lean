import TypeFoundry.Modules.Registry

/-!
# The catalog

All types that are known: those of the manifest, which were there at the start, and those of the
registry. For a full name that both have, the registry counts.
-/

set_option autoImplicit false

namespace TypeFoundry

/-- The known types. -/
structure Catalog where
  /-- The types that were there at the start. -/
  manifest : List TypeHandle
  registry : Registry
  deriving DecidableEq

/-- A known type in a list. -/
structure TypeListing where
  name : String
  path : TypePath
  origin : Origin
  deriving DecidableEq

/-- An entry of the registry in a list. -/
structure EntryListing where
  name : String
  path : TypePath
  module : ModuleId
  generation : Nat
  deriving DecidableEq

/-- The known type of the handle, for a list. -/
def TypeListing.ofHandle (h : TypeHandle) : TypeListing := ⟨h.name, h.path, h.module.origin⟩

/-- The entry of the handle, for a list. -/
def EntryListing.ofHandle (h : TypeHandle) : EntryListing :=
  ⟨h.name, h.path, h.module.id, h.module.generation⟩

/-- Whether the first does not come after the second: by name, then by full name. -/
def TypeListing.le (a b : TypeListing) : Bool :=
  (compare a.name b.name).then (compare a.path b.path) != .gt

/-- Whether the first does not come after the second: by name. -/
def EntryListing.le (a b : EntryListing) : Bool := compare a.name b.name != .gt

namespace Catalog

/-- The catalog without types. -/
def empty : Catalog := ⟨[], .empty⟩

/-- The catalog with further types in the manifest. -/
def extend (c : Catalog) (hs : List TypeHandle) : Catalog :=
  { c with manifest := c.manifest ++ hs }

/-- The catalog with the type entered into the registry; the answer is whether it was entered. -/
def register (c : Catalog) (h : TypeHandle) : Bool × Catalog :=
  let (entered, registry) := c.registry.register h
  (entered, { c with registry := registry })

/-- The handle that counts for each full name. -/
def latest (c : Catalog) : List TypeHandle := latestByName (c.manifest ++ c.registry.entries)

/-- The handle that counts for the full name. -/
def find? (c : Catalog) (path : TypePath) : Option TypeHandle :=
  (c.registry.find? path).orElse fun _ => lastNamed? path c.manifest

/-- The full name under which the type is known, if it is. -/
def resolve (c : Catalog) (path : TypePath) : Option TypePath := (c.find? path).map (·.path)

/-- The types of the manifest in the namespace and all of the registry, one for each full name. -/
def listAll (c : Catalog) (modules : List String) : List TypeListing :=
  ((latestByName (c.manifest.filter (·.path.modules = modules) ++ c.registry.entries)).map
    .ofHandle).mergeSort TypeListing.le

/-- The entries of the registry, those included that no longer count. -/
def listEntries (c : Catalog) : List EntryListing :=
  (c.registry.entries.map .ofHandle).mergeSort EntryListing.le

/-- The types of the namespace whose values have an identity. -/
def entities (c : Catalog) (modules : List String) : List TypeHandle :=
  c.latest.filter fun h => h.path.modules = modules && h.hasIdentity

end Catalog

/-- The listing as a JSON value. -/
def TypeListing.toJson (l : TypeListing) : Json :=
  .record [("name", .text l.name), ("fullName", .text l.path.display),
    ("origin", .text l.origin.label)]

/-- The listing as a JSON value. -/
def EntryListing.toJson (l : EntryListing) : Json :=
  .record [("name", .text l.name), ("fullName", .text l.path.display),
    ("module", .text l.module.hyphenated), ("generation", .natural l.generation)]

end TypeFoundry
