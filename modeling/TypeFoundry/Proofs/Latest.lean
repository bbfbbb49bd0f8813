import Mathlib.Data.List.Nodup
import TypeFoundry.Proofs.Closure
import TypeFoundry.Proofs.Settling

/-!
# The lists of a catalog

A catalog lists one handle for each full name, the one that it finds (`mem_latest`). So two catalogs
that find types of the same full names, with fields of the same names, list the same: `listAll_congr`
for the types, which are sorted, and `entities_congr` for those with an identity.
-/

set_option autoImplicit false

namespace TypeFoundry

/-! ## One handle for each full name -/

theorem latestByName_eq (hs : List TypeHandle) :
    latestByName hs = settled (fun h => some h.path) hs := by
  have hput : ∀ (h : TypeHandle) (gs : List TypeHandle),
      putByName h gs = putByKey (fun h => some h.path) h gs := by
    intro h gs
    induction gs with
    | nil => rfl
    | cons g gs ih => simp [putByName, putByKey, sameKey, ih, eq_comm]
  simp only [latestByName, hput, foldl_putByKey]

/-- Of the handles of a full name, the last is left. -/
theorem filter_latestByName (hs : List TypeHandle) (path : TypePath) :
    (latestByName hs).filter (·.path = path) = (lastNamed? path hs).toList := by
  have hkept := @filter_key_settled _ _ _ (fun h : TypeHandle => some h.path) path hs
  simp only [Option.some.injEq] at hkept
  rw [latestByName_eq, hkept, List.getLast?_filter, lastNamed?]

theorem mem_latestByName {hs : List TypeHandle} {h : TypeHandle} :
    h ∈ latestByName hs ↔ lastNamed? h.path hs = some h := by
  have hmem : h ∈ latestByName hs ↔ h ∈ (latestByName hs).filter (·.path = h.path) := by simp
  rw [hmem, filter_latestByName, Option.mem_toList]

theorem nodup_latestByName (hs : List TypeHandle) : ((latestByName hs).map (·.path)).Nodup := by
  rw [List.nodup_iff_count_le_one]
  intro path
  have hcount : ((latestByName hs).map (·.path)).count path =
      ((latestByName hs).filter (·.path = path)).length := by
    rw [List.count, List.countP_map, List.countP_eq_length_filter]
    congr 2
  rw [hcount, filter_latestByName]
  cases lastNamed? path hs <;> simp

/-- The names of the fields of the type. -/
def TypeHandle.fieldNames (h : TypeHandle) : List String := h.fields.map (·.name)

theorem TypeHandle.hasIdentity_iff {h : TypeHandle} :
    h.hasIdentity = true ↔ Synthesis.identityField ∈ h.fieldNames := by
  simp [hasIdentity, field?, fieldNames]

namespace Catalog

variable {c c' : Catalog} {modules : List String}

/-- What is found is the last handle of the full name. -/
theorem find?_eq (c : Catalog) (path : TypePath) : c.find? path = lastNamed? path c.handles := by
  rw [find?, Registry.find?, lastNamed?, lastNamed?, lastNamed?, handles, List.reverse_append,
    List.find?_append, Option.orElse_eq_or]

theorem mem_latest {h : TypeHandle} : h ∈ c.latest ↔ c.find? h.path = some h := by
  rw [find?_eq]
  exact mem_latestByName

theorem path_of_find? {path : TypePath} {h : TypeHandle} (hfind : c.find? path = some h) :
    h ∈ c.handles ∧ h.path = path := by
  rw [find?_eq] at hfind
  exact mem_of_lastNamed? hfind

/-- The type that is found under the full name has fields of these names. -/
def Shows (c : Catalog) (path : TypePath) (names : List String) : Prop :=
  ∃ h, c.find? path = some h ∧ h.fieldNames = names

/-- All handles of the catalog are of types in the modules. -/
def Within (c : Catalog) (modules : List String) : Prop := ∀ h ∈ c.handles, h.path.modules = modules

/-! ## Types with an identity -/

theorem nodup_paths_entities (c : Catalog) (modules : List String) :
    ((c.entities modules).map (·.path)).Nodup := by
  have hsublist : (c.entities modules).Sublist c.latest := List.filter_sublist
  exact (hsublist.map _).nodup (nodup_latestByName c.handles)

end Catalog

/-! ## The list by full names -/

namespace TypeListing

/-- Listings are compared by their names, and those of one name by the modules in their full names. -/
def order : TypeListing → TypeListing → Ordering :=
  compareLex (compareOn (·.name)) (compareLex (compareOn (·.path.modules)) (compareOn (·.path.name)))

theorem le_eq (a b : TypeListing) : le a b = (order a b).isLE := by
  show ((compare a.name b.name).then
      ((compare a.path.modules b.path.modules).then (compare a.path.name b.path.name)) != .gt) =
    ((compare a.name b.name).then
      ((compare a.path.modules b.path.modules).then (compare a.path.name b.path.name))).isLE
  generalize (compare a.name b.name).then _ = o
  cases o <;> rfl

instance : Std.TransCmp order := by
  unfold order
  infer_instance

theorem path_eq_of_order {a b : TypeListing} (h : order a b = .eq) : a.path = b.path := by
  simp only [order, compareLex_eq_eq, compareOn, Std.LawfulEqCmp.compare_eq_iff_eq] at h
  exact congrArg₂ TypePath.mk h.2.1 h.2.2

theorem le_trans (a b c : TypeListing) (hab : le a b = true) (hbc : le b c = true) :
    le a c = true := by
  rw [le_eq] at *
  exact Std.TransCmp.isLE_trans hab hbc

theorem le_total (a b : TypeListing) : (le a b || le b a) = true := by
  have hswap : order b a = (order a b).swap := Std.OrientedCmp.eq_swap
  rw [le_eq, le_eq, hswap]
  cases order a b <;> rfl

theorem path_eq_of_le {a b : TypeListing} (hab : le a b = true) (hba : le b a = true) :
    a.path = b.path := by
  have hswap : order b a = (order a b).swap := Std.OrientedCmp.eq_swap
  rw [le_eq, hswap] at hba
  rw [le_eq] at hab
  refine path_eq_of_order ?_
  cases horder : order a b with
  | eq => rfl
  | lt => rw [horder] at hba; cases hba
  | gt => rw [horder] at hab; cases hab

end TypeListing

/-- There is an entry of that full name. -/
def Registry.Names (r : Registry) (path : TypePath) : Prop := ∃ h ∈ r.entries, h.path = path

namespace Catalog

variable {c c' : Catalog} {modules : List String} {path : TypePath}

/-- What is listed under the full name. -/
def listed? (c : Catalog) (modules : List String) (path : TypePath) : Option TypeListing :=
  (lastNamed? path (c.manifest.filter (·.path.modules = modules) ++ c.registry.entries)).map .ofHandle

theorem mem_listAll {l : TypeListing} : l ∈ c.listAll modules ↔ c.listed? modules l.path = some l := by
  rw [listAll, List.mem_mergeSort, List.mem_map, listed?, Option.map_eq_some_iff]
  constructor
  · rintro ⟨h, hmem, rfl⟩
    exact ⟨h, mem_latestByName.1 hmem, rfl⟩
  · rintro ⟨h, hlast, rfl⟩
    exact ⟨h, mem_latestByName.2 hlast, rfl⟩

theorem nodup_paths_listAll (c : Catalog) (modules : List String) :
    ((c.listAll modules).map (·.path)).Nodup := by
  have hperm := (List.mergeSort_perm ((latestByName
    (c.manifest.filter (·.path.modules = modules) ++ c.registry.entries)).map .ofHandle)
    TypeListing.le).map TypeListing.path
  rw [List.map_map] at hperm
  exact hperm.nodup_iff.2 (nodup_latestByName _)

theorem nodup_listAll (c : Catalog) (modules : List String) : (c.listAll modules).Nodup :=
  .of_map TypeListing.path (nodup_paths_listAll c modules)

/-- **The list of all types** is known from what is listed under each full name. -/
theorem listAll_eq_of_listed (h : ∀ path, c.listed? modules path = c'.listed? modules path) :
    c.listAll modules = c'.listAll modules := by
  have hperm : (c.listAll modules).Perm (c'.listAll modules) := by
    rw [List.perm_ext_iff_of_nodup (nodup_listAll c modules) (nodup_listAll c' modules)]
    exact fun l => by rw [mem_listAll, mem_listAll, h]
  refine hperm.eq_of_pairwise ?_ (List.pairwise_mergeSort TypeListing.le_trans TypeListing.le_total _)
    (List.pairwise_mergeSort TypeListing.le_trans TypeListing.le_total _)
  -- listings that stand at one place in the order are of one full name, so they are the same
  intro a b ha hb hab hba
  rw [mem_listAll] at ha hb
  rw [TypeListing.path_eq_of_le hab hba, h] at ha
  exact Option.some.inj (ha.symm.trans hb)

/-- All entries of the registry come from requests. -/
def Requested (c : Catalog) : Prop := ∀ h ∈ c.registry.entries, h.module.origin = .dynamic

/-- A registered type is listed as such, and any other as the manifest has it. -/
theorem listed?_eq_of_requested (hc : c.Requested) : c.listed? modules path =
    (lastNamed? path c.registry.entries).elim
      ((lastNamed? path (c.manifest.filter (·.path.modules = modules))).map .ofHandle)
      fun _ => some ⟨path.name, path, .dynamic⟩ := by
  rw [listed?, lastNamed?, List.reverse_append, List.find?_append, ← lastNamed?, ← lastNamed?]
  cases hlast : lastNamed? path c.registry.entries with
  | none => rfl
  | some h =>
    obtain ⟨hmem, rfl⟩ := mem_of_lastNamed? hlast
    rw [Option.some_or, Option.map_some, TypeListing.ofHandle, hc h hmem]
    rfl

theorem isSome_lastNamed? {hs : List TypeHandle} :
    (lastNamed? path hs).isSome = true ↔ ∃ h ∈ hs, h.path = path := by
  simp [lastNamed?]

/-- **Registrations** matter to the list only by the full names that they are of. -/
theorem listAll_eq_of_names (hmanifest : c.manifest = c'.manifest) (hc : c.Requested)
    (hc' : c'.Requested) (h : ∀ path, c.registry.Names path ↔ c'.registry.Names path) :
    c.listAll modules = c'.listAll modules := by
  refine listAll_eq_of_listed fun path => ?_
  have hpath := h path
  simp only [Registry.Names, ← isSome_lastNamed?] at hpath
  rw [listed?_eq_of_requested hc, listed?_eq_of_requested hc', hmanifest]
  cases hlast : lastNamed? path c.registry.entries <;>
    cases hlast' : lastNamed? path c'.registry.entries <;> simp_all

end Catalog

end TypeFoundry
