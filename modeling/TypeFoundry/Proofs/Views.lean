import TypeFoundry.Proofs.Latest

/-!
# The views of a catalog agree

What a catalog finds, resolves and lists is computed in different ways: by a search from the end, by a
pass that puts later handles in the place of earlier ones, and by such a pass over a part of the
manifest. All of them show the same handle under a full name, the last one that is known
(`Catalog.views_agree`).
-/

set_option autoImplicit false

namespace TypeFoundry

variable {modules : List String} {path : TypePath}

theorem lastNamed?_append (xs ys : List TypeHandle) :
    lastNamed? path (xs ++ ys) = (lastNamed? path ys).or (lastNamed? path xs) := by
  rw [lastNamed?, List.reverse_append, List.find?_append]
  rfl

/-- A handle in the modules is the last of its full name among those in the modules. -/
theorem lastNamed?_filter (h : path.modules = modules) (hs : List TypeHandle) :
    lastNamed? path (hs.filter (·.path.modules = modules)) = lastNamed? path hs := by
  rw [lastNamed?, ← List.filter_reverse, List.find?_filter, lastNamed?]
  congr 1
  funext g
  simp only [decide_eq_true_iff, decide_eq_decide]
  exact and_iff_right_of_imp fun hpath => hpath ▸ h

namespace Catalog

variable {c : Catalog}

/-- There is a handle of that full name in the manifest. -/
def Declares (c : Catalog) (path : TypePath) : Prop := ∃ h ∈ c.manifest, h.path = path

theorem isSome_find?_iff :
    (c.find? path).isSome = true ↔ c.Declares path ∨ c.registry.Names path := by
  rw [find?_eq, isSome_lastNamed?, handles, Declares, Registry.Names]
  simp only [List.mem_append, or_and_right, exists_or]

/-- What is found is the one handle of the full name among the latest. -/
theorem find?_eq_some_iff {h : TypeHandle} :
    c.find? path = some h ↔ h ∈ c.latest ∧ h.path = path := by
  rw [mem_latest]
  constructor
  · intro hfind
    obtain ⟨-, rfl⟩ := path_of_find? hfind
    exact ⟨hfind, rfl⟩
  · rintro ⟨hfind, rfl⟩
    exact hfind

/-- A full name is resolved to itself, just if it is known. -/
theorem resolve_eq_some_iff {found : TypePath} :
    c.resolve path = some found ↔ found = path ∧ (c.Declares path ∨ c.registry.Names path) := by
  rw [← isSome_find?_iff, resolve, Option.map_eq_some_iff, Option.isSome_iff_exists]
  constructor
  · rintro ⟨h, hfind, rfl⟩
    exact ⟨(path_of_find? hfind).2, h, hfind⟩
  · rintro ⟨rfl, h, hfind⟩
    exact ⟨h, hfind, (path_of_find? hfind).2⟩

/-! ## The list of all types -/

/-- What is listed is what is found, of the full names that are registered or of the modules. -/
theorem listed?_eq_some_iff {l : TypeListing} : c.listed? modules path = some l ↔
    (path.modules = modules ∨ c.registry.Names path) ∧ ∃ h, c.find? path = some h ∧ .ofHandle h = l := by
  rw [listed?, Option.map_eq_some_iff, find?_eq, handles, lastNamed?_append, lastNamed?_append]
  by_cases hmodules : path.modules = modules
  · rw [lastNamed?_filter hmodules, and_iff_right (.inl hmodules)]
  cases hlast : lastNamed? path c.registry.entries with
  | some h =>
    have hnames : c.registry.Names path := ⟨h, mem_of_lastNamed? hlast⟩
    rw [Option.some_or, Option.some_or, and_iff_right (.inr hnames)]
  | none =>
    have hnames : ¬ c.registry.Names path := by
      rw [Registry.Names, ← isSome_lastNamed?, hlast]
      exact Bool.false_ne_true
    rw [Option.none_or, Option.none_or]
    refine iff_of_false ?_ fun h => h.1.elim hmodules hnames
    -- a handle of the full name that is not filtered out is in the modules
    rintro ⟨h, hfiltered, -⟩
    obtain ⟨hmem, rfl⟩ := mem_of_lastNamed? hfiltered
    exact hmodules (of_decide_eq_true (List.mem_filter.1 hmem).2)

theorem exists_find?_of_mem_listAll {l : TypeListing} (h : l ∈ c.listAll modules) :
    ∃ g, c.find? l.path = some g ∧ .ofHandle g = l :=
  (listed?_eq_some_iff.1 (mem_listAll.1 h)).2

theorem mem_paths_listAll : path ∈ (c.listAll modules).map (·.path) ↔
    c.registry.Names path ∨ path.modules = modules ∧ c.Declares path := by
  have hlisted : path ∈ (c.listAll modules).map (·.path) ↔
      (path.modules = modules ∨ c.registry.Names path) ∧ (c.find? path).isSome = true := by
    rw [List.mem_map, Option.isSome_iff_exists]
    constructor
    · rintro ⟨l, hl, rfl⟩
      obtain ⟨hshown, h, hfind, -⟩ := listed?_eq_some_iff.1 (mem_listAll.1 hl)
      exact ⟨hshown, h, hfind⟩
    · rintro ⟨hshown, h, hfind⟩
      obtain ⟨-, rfl⟩ := path_of_find? hfind
      exact ⟨.ofHandle h, mem_listAll.2 (listed?_eq_some_iff.2 ⟨hshown, h, hfind, rfl⟩), rfl⟩
  rw [hlisted, isSome_find?_iff]
  tauto

/-- The list is sorted, and no two listings stand at one place in the order. -/
theorem pairwise_listAll (c : Catalog) (modules : List String) : (c.listAll modules).Pairwise
    fun a b => (compare a.name b.name).then (compare a.path b.path) = .lt := by
  have hle : (c.listAll modules).Pairwise fun a b => TypeListing.le a b = true :=
    List.pairwise_mergeSort TypeListing.le_trans TypeListing.le_total _
  have hne : (c.listAll modules).Pairwise fun a b => a.path ≠ b.path :=
    List.pairwise_map.1 (nodup_paths_listAll c modules)
  refine hle.imp₂ (fun a b hab hpath => ?_) hne
  rw [TypeListing.le_eq] at hab
  show TypeListing.order a b = .lt
  cases horder : TypeListing.order a b with
  | lt => rfl
  | eq => exact absurd (TypeListing.path_eq_of_order horder) hpath
  | gt => rw [horder] at hab; cases hab

/-! ## All views -/

/-- **The views of a catalog agree**, whatever handles are in its manifest and its registry.

What is found under a full name is the one handle of that name among the latest, and a full name
resolves to itself just if it is known. The list for some modules has one listing for each full name
that is registered, or that the manifest has in the modules; it shows the handle that is found, and it is
sorted by name and then by full name. The entities are the handles that are found in the modules and have
an identity, and all of them are listed. -/
theorem views_agree (c : Catalog) (modules : List String) :
    (∀ path h, c.find? path = some h ↔ h ∈ c.latest ∧ h.path = path) ∧
    (c.latest.map (·.path)).Nodup ∧
    (∀ path found, c.resolve path = some found ↔
      found = path ∧ (c.Declares path ∨ c.registry.Names path)) ∧
    (∀ path, path ∈ (c.listAll modules).map (·.path) ↔
      c.registry.Names path ∨ path.modules = modules ∧ c.Declares path) ∧
    (∀ l ∈ c.listAll modules, ∃ h, c.find? l.path = some h ∧ l.name = h.name ∧
      l.origin = h.module.origin) ∧
    (c.listAll modules).Pairwise
      (fun a b => (compare a.name b.name).then (compare a.path b.path) = .lt) ∧
    ((c.listAll modules).map (·.path)).Nodup ∧
    (∀ h, h ∈ c.entities modules ↔ c.find? h.path = some h ∧ h.path.modules = modules ∧
      ∃ f ∈ h.fields, f.name = "id") ∧
    ((c.entities modules).map (·.path)).Nodup ∧
    ∀ h ∈ c.entities modules, h.path ∈ (c.listAll modules).map (·.path) := by
  have hentity : ∀ h, h ∈ c.entities modules ↔ c.find? h.path = some h ∧
      h.path.modules = modules ∧ ∃ f ∈ h.fields, f.name = "id" := by
    intro h
    rw [entities, List.mem_filter, mem_latest, Bool.and_eq_true, decide_eq_true_iff,
      TypeHandle.hasIdentity_iff, TypeHandle.fieldNames, List.mem_map]
    rfl
  refine ⟨fun path h => find?_eq_some_iff, nodup_latestByName c.handles,
    fun path found => resolve_eq_some_iff, fun path => mem_paths_listAll, fun l hl => ?_,
    pairwise_listAll c modules, nodup_paths_listAll c modules, hentity,
    nodup_paths_entities c modules, fun h hh => ?_⟩
  · obtain ⟨g, hfind, rfl⟩ := exists_find?_of_mem_listAll hl
    exact ⟨g, hfind, rfl, rfl⟩
  · obtain ⟨hfind, hmodules, -⟩ := (hentity h).1 hh
    have hknown : (c.find? h.path).isSome = true := by rw [hfind]; rfl
    rw [isSome_find?_iff] at hknown
    rw [mem_paths_listAll]
    exact hknown.symm.imp_right fun hdeclared => ⟨hmodules, hdeclared⟩

end Catalog

end TypeFoundry
