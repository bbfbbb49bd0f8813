import TypeFoundry.Crate.Merge
import TypeFoundry.Proofs.Settling
import TypeFoundry.Synthesis.Locate

/-!
# What merging keeps

A module of a merged crate is made of all bodies that the units have at its path (`bodiesAt`), those of
the references first. `at?_addItems` says how a body enters the tree of modules, and `bodiesAt_toItems`
reads the tree back. So the crate has one module at each path, in which the last definition of a type
stands in the place of the first, every import stands once, everything else comes from the targets and
nothing is lost (`merge_settles`).
-/

set_option autoImplicit false

namespace TypeFoundry

open Source Crate

namespace Source

/-! ## Bodies at a path -/

/-- Whether the item is no module with a body. -/
def Item.isLeaf : Item → Bool
  | .module _ _ => false
  | _ => true

/-- The name of the module, if the item is one with a body. -/
def Item.moduleName? : Item → Option String
  | .module head _ => some head.name
  | _ => none

/-- The bodies of all modules at the path, in the order in which they stand in the items. -/
def bodiesAt : List String → List Item → List (List Item)
  | [], items => [items]
  | name :: path, items => (items.filterMap (Item.itemsOf? name)).flatMap (bodiesAt path)

/-- The items right in the modules at the path that are no modules with a body themselves. -/
def leavesAt (path : List String) (items : List Item) : List Item :=
  (bodiesAt path items).flatMap (·.filter Item.isLeaf)

/-- The names of the modules right in those at the path. -/
def moduleNamesAt (path : List String) (items : List Item) : List String :=
  (bodiesAt path items).flatMap (·.filterMap Item.moduleName?)

/-- What an item stands for in its module: a type of its name, or an import. -/
inductive ItemKey where
  | type (name : String)
  | import (u : UseDecl)
  deriving DecidableEq

/-- What the item stands for, if it is a struct, an enum or an import. -/
def Item.key? : Item → Option ItemKey
  | .use u => some (.import u)
  | .struct s => some (.type s.name)
  | .enum e => some (.type e.name)
  | _ => none

theorem key?_eq_type {i : Item} {name : String} :
    i.key? = some (.type name) ↔ typeName? i = some name := by
  cases i <;> simp [Item.key?, typeName?]

theorem key?_eq_import {i : Item} {u : UseDecl} :
    i.key? = some (.import u) ↔ i = .use u := by
  cases i <;> simp [Item.key?]

end Source

namespace Crate

/-! ## The tree of modules -/

namespace ModuleTree

/-- The items of the module itself. -/
def items : ModuleTree → List Item
  | .node items _ => items

/-- The modules inside the module. -/
def children : ModuleTree → List (String × ModuleTree)
  | .node _ children => children

/-- The module of that name inside the module. -/
def child? (name : String) (t : ModuleTree) : Option ModuleTree :=
  (t.children.find? (·.1 = name)).map (·.2)

/-- The module at the path. -/
def at? : List String → ModuleTree → Option ModuleTree
  | [], t => some t
  | name :: path, t => (t.child? name).bind (at? path)

@[simp] theorem items_inChild (name : String) (f : ModuleTree → ModuleTree) (t : ModuleTree) :
    (t.inChild name f).items = t.items := by cases t; rfl

@[simp] theorem items_inItems (f : List Item → List Item) (t : ModuleTree) :
    (t.inItems f).items = f t.items := by cases t; rfl

@[simp] theorem children_inItems (f : List Item → List Item) (t : ModuleTree) :
    (t.inItems f).children = t.children := by cases t; rfl

@[simp] theorem child?_inItems (name : String) (f : List Item → List Item) (t : ModuleTree) :
    (t.inItems f).child? name = t.child? name := by rw [child?, children_inItems]; rfl

theorem child?_inChild (name other : String) (f : ModuleTree → ModuleTree) (t : ModuleTree) :
    (t.inChild name f).child? other =
      if other = name then some (f ((t.child? name).getD empty)) else t.child? other := by
  obtain ⟨items, children⟩ := t
  simp only [child?, inChild, ModuleTree.children]
  induction children with
  | nil =>
    by_cases h : other = name
    · simp [changeChild, h]
    · simp [changeChild, h, Ne.symm h]
  | cons c children ih =>
    obtain ⟨n, t⟩ := c
    unfold changeChild
    by_cases hn : n = name
    · subst hn
      by_cases h : other = n
      · simp [h]
      · simp [h, Ne.symm h]
    · rw [if_neg hn]
      by_cases h : n = other
      · subst h
        simp [hn]
      · simpa [h, hn] using ih

/-- The names of the modules inside the module. -/
def childNames (t : ModuleTree) : List String := t.children.map (·.1)

/-- The names with one more, unless it is there. -/
def withName (names : List String) (name : String) : List String :=
  if name ∈ names then names else names ++ [name]

theorem childNames_inChild (name : String) (f : ModuleTree → ModuleTree) (t : ModuleTree) :
    (t.inChild name f).childNames = withName t.childNames name := by
  obtain ⟨items, children⟩ := t
  simp only [childNames, inChild, ModuleTree.children]
  induction children with
  | nil => rfl
  | cons c children ih =>
    obtain ⟨n, t⟩ := c
    unfold changeChild
    by_cases hn : n = name
    · simp [hn, withName]
    · rw [if_neg hn, List.map_cons, ih]
      by_cases hmem : name ∈ children.map (·.1)
      · simp [withName, hmem]
      · simp [withName, hmem, Ne.symm hn]

end ModuleTree

open ModuleTree

/-! ## Adding items -/

variable {role : Role}

theorem items_addItem (i : Item) (t : ModuleTree) :
    (addItem role i t).items = if i.isLeaf then addLeaf role i t.items else t.items := by
  cases i <;> simp [addItem, Item.isLeaf]

theorem child?_addItem (name : String) (i : Item) (t : ModuleTree) :
    (addItem role i t).child? name =
      match i.itemsOf? name with
      | some body => some (addItems role body ((t.child? name).getD empty))
      | none => t.child? name := by
  cases i with
  | module head items =>
    rw [addItem, child?_inChild, Item.itemsOf?]
    by_cases h : head.name = name
    · simp [h]
    · simp [h, Ne.symm h]
  | _ => simp [addItem, Item.itemsOf?]

theorem childNames_addItem (i : Item) (t : ModuleTree) :
    (addItem role i t).childNames =
      match i.moduleName? with
      | some name => withName t.childNames name
      | none => t.childNames := by
  cases i with
  | module head items => rw [addItem, childNames_inChild, Item.moduleName?]
  | _ => simp [addItem, Item.moduleName?, childNames]

/-- The leaves enter the items of the module one after the other. -/
theorem items_addItems (items : List Item) (t : ModuleTree) :
    (addItems role items t).items =
      (items.filter Item.isLeaf).foldl (fun found i => addLeaf role i found) t.items := by
  induction items generalizing t with
  | nil => rfl
  | cons i is ih =>
    rw [addItems, ih, items_addItem, List.filter_cons]
    split <;> rfl

theorem childNames_addItems (items : List Item) (t : ModuleTree) :
    (addItems role items t).childNames =
      (items.filterMap Item.moduleName?).foldl withName t.childNames := by
  induction items generalizing t with
  | nil => rfl
  | cons i is ih =>
    rw [addItems, ih, childNames_addItem, List.filterMap_cons]
    cases i.moduleName? <;> rfl

/-- What is at a path with the items of one more body. -/
def grow (role : Role) (found : Option ModuleTree) (body : List Item) : Option ModuleTree :=
  some (addItems role body (found.getD empty))

theorem child?_addItems (name : String) (items : List Item) (t : ModuleTree) :
    (addItems role items t).child? name =
      (items.filterMap (Item.itemsOf? name)).foldl (grow role) (t.child? name) := by
  induction items generalizing t with
  | nil => rfl
  | cons i is ih =>
    rw [addItems, ih, child?_addItem, List.filterMap_cons]
    cases i.itemsOf? name <;> rfl

/-- A module without items is at no path but the empty one, and there it makes no difference. -/
theorem foldl_grow_empty (path : List String) (body : List Item) :
    (bodiesAt path body).foldl (grow role) (empty.at? path) =
      (bodiesAt path body).foldl (grow role) none := by
  cases path with
  | nil => rfl
  | cons name path => rfl

/-- **Adding items** adds each body that they have at a path to what is there. -/
theorem at?_addItems (path : List String) (items : List Item) (t : ModuleTree) :
    (addItems role items t).at? path = (bodiesAt path items).foldl (grow role) (t.at? path) := by
  induction path generalizing items t with
  | nil => rfl
  | cons name path ih =>
    have hbodies : ∀ (bodies : List (List Item)) (found : Option ModuleTree),
        (bodies.foldl (grow role) found).bind (at? path) =
          (bodies.flatMap (bodiesAt path)).foldl (grow role) (found.bind (at? path)) := by
      intro bodies
      induction bodies with
      | nil => intro found; rfl
      | cons body bodies ihb =>
        intro found
        rw [List.foldl_cons, ihb, List.flatMap_cons, List.foldl_append]
        congr 1
        rw [grow, Option.bind_some, ih]
        cases found with
        | none => exact foldl_grow_empty path body
        | some t => rfl
    rw [at?, child?_addItems, hbodies]
    rfl

theorem at?_foldl_addItems (path : List String) (units : List SourceUnit) (t : ModuleTree) :
    (units.foldl (fun t u => addItems role u.items t) t).at? path =
      (units.flatMap fun u => bodiesAt path u.items).foldl (grow role) (t.at? path) := by
  induction units generalizing t with
  | nil => rfl
  | cons u units ih =>
    rw [List.foldl_cons, ih, at?_addItems, List.flatMap_cons, List.foldl_append]

section

variable (bodies : List (List Item)) (found : Option ModuleTree)

theorem isSome_foldl_grow :
    (bodies.foldl (grow role) found).isSome = true ↔ found.isSome = true ∨ bodies ≠ [] := by
  induction bodies generalizing found with
  | nil => simp
  | cons body bodies ih =>
    rw [List.foldl_cons, ih]
    simp [grow]

theorem items_foldl_grow :
    ((bodies.foldl (grow role) found).getD empty).items =
      (bodies.flatMap (·.filter Item.isLeaf)).foldl (fun found i => addLeaf role i found)
        (found.getD empty).items := by
  induction bodies generalizing found with
  | nil => rfl
  | cons body bodies ih =>
    rw [List.foldl_cons, ih, List.flatMap_cons, List.foldl_append, grow, Option.getD_some,
      items_addItems]

theorem childNames_foldl_grow :
    ((bodies.foldl (grow role) found).getD empty).childNames =
      (bodies.flatMap (·.filterMap Item.moduleName?)).foldl withName (found.getD empty).childNames := by
  induction bodies generalizing found with
  | nil => rfl
  | cons body bodies ih =>
    rw [List.foldl_cons, ih, List.flatMap_cons, List.foldl_append, grow, Option.getD_some,
      childNames_addItems]

end

/-! ## Leaves and their keys -/

theorem putByKey_import (u : UseDecl) (items : List Item) :
    putByKey Item.key? (.use u) items =
      if items.any (Item.isImportOf u) then items else items ++ [.use u] := by
  induction items with
  | nil => rfl
  | cons i is ih =>
    rw [putByKey_cons, ih, List.any_cons]
    by_cases h : i = .use u
    · subst h
      simp [sameKey, Item.key?, Item.isImportOf]
    · have hkey : sameKey Item.key? (.use u) i = false := by
        rw [← Bool.not_eq_true, sameKey_iff]
        rintro ⟨k, hk, hi⟩
        obtain rfl := Option.some.inj hk
        exact h (key?_eq_import.1 hi)
      have himport : Item.isImportOf u i = false := by
        cases i with
        | use v => simpa [Item.isImportOf] using h
        | _ => rfl
      rw [hkey, himport]
      simp only [Bool.false_eq_true, ↓reduceIte, Bool.false_or]
      split <;> rfl

theorem putByKey_type {name : String} {item : Item} (h : item.key? = some (.type name))
    (items : List Item) : putByKey Item.key? item items = putType name item items := by
  induction items with
  | nil => rfl
  | cons i is ih =>
    have hkey : sameKey Item.key? item i = decide (typeName? i = some name) := by
      rw [Bool.eq_iff_iff, sameKey_iff, decide_eq_true_iff, ← key?_eq_type]
      simp [h]
    rw [putByKey_cons, ih, putType, hkey]
    simp only [decide_eq_true_eq]

theorem putByKey_other {item : Item} (h : item.key? = none) (items : List Item) :
    putByKey Item.key? item items = items ++ [item] := by
  induction items with
  | nil => rfl
  | cons i is ih =>
    rw [putByKey_cons, ih, sameKey_eq_false_of_none h]
    rfl

/-- A leaf of a target takes the place of the one of its key. -/
theorem addLeaf_target (i : Item) (items : List Item) :
    addLeaf .target i items = putByKey Item.key? i items := by
  cases i with
  | use u => rw [putByKey_import]; rfl
  | struct s => rw [putByKey_type rfl]; rfl
  | enum e => rw [putByKey_type rfl]; rfl
  | module head items => rw [putByKey_other rfl]; rfl
  | other d => rw [putByKey_other rfl]; rfl

/-- So does a leaf of a reference, if it has a key. -/
theorem addLeaf_reference (i : Item) (items : List Item) :
    addLeaf .reference i items = if i.key?.isSome then putByKey Item.key? i items else items := by
  cases i with
  | use u => rw [putByKey_import]; rfl
  | struct s => rw [putByKey_type rfl]; rfl
  | enum e => rw [putByKey_type rfl]; rfl
  | module head items => rfl
  | other d => rfl

theorem foldl_addLeaf_reference (leaves items : List Item) :
    leaves.foldl (fun found i => addLeaf .reference i found) items =
      (leaves.filter (·.key?.isSome)).foldl (fun found i => putByKey Item.key? i found) items := by
  induction leaves generalizing items with
  | nil => rfl
  | cons i is ih =>
    rw [List.foldl_cons, ih, addLeaf_reference, List.filter_cons]
    split <;> rfl

/-! ## The merged tree -/

/-- The items of the units right in the modules at the path that are no modules themselves. -/
def leavesOf (path : List String) (units : List SourceUnit) : List Item :=
  units.flatMap fun u => leavesAt path u.items

/-- What the units give to the module at the path: the references their types and imports, the targets
all that is no module. -/
def given (path : List String) (targets references : List SourceUnit) : List Item :=
  (leavesOf path references).filter (·.key?.isSome) ++ leavesOf path targets

section

variable (path : List String) (targets references : List SourceUnit)

theorem at?_mergeTree :
    (mergeTree targets references).at? path =
      (targets.flatMap fun u => bodiesAt path u.items).foldl (grow .target)
        ((references.flatMap fun u => bodiesAt path u.items).foldl (grow .reference)
          (empty.at? path)) := by
  rw [mergeTree, at?_foldl_addItems, at?_foldl_addItems]

theorem getD_at?_empty : (empty.at? path).getD empty = empty := by
  cases path <;> rfl

/-- The items right in a module of the tree. -/
theorem items_mergeTree :
    (((mergeTree targets references).at? path).getD empty).items =
      settled Item.key? (given path targets references) := by
  rw [at?_mergeTree, items_foldl_grow, items_foldl_grow, getD_at?_empty, foldl_addLeaf_reference,
    ← foldl_putByKey, given, List.foldl_append]
  simp only [addLeaf_target, leavesOf, leavesAt, List.flatMap_assoc]
  rfl

/-- The modules right in a module of the tree. -/
theorem childNames_mergeTree :
    (((mergeTree targets references).at? path).getD empty).childNames =
      ((references ++ targets).flatMap fun u => moduleNamesAt path u.items).foldl withName [] := by
  rw [at?_mergeTree, childNames_foldl_grow, childNames_foldl_grow, getD_at?_empty,
    List.flatMap_append, List.foldl_append]
  simp only [moduleNamesAt, List.flatMap_assoc]
  rfl

theorem isSome_at?_mergeTree :
    ((mergeTree targets references).at? path).isSome = true ↔
      path = [] ∨ ∃ u ∈ references ++ targets, bodiesAt path u.items ≠ [] := by
  have hempty : (empty.at? path).isSome = true ↔ path = [] := by
    cases path with
    | nil => simp [at?]
    | cons name path => simp [at?, empty, child?, ModuleTree.children]
  rw [at?_mergeTree, isSome_foldl_grow, isSome_foldl_grow, hempty]
  simp only [ne_eq, List.flatMap_eq_nil_iff, not_forall, List.mem_append, or_and_right, exists_or,
    or_assoc, exists_prop]

end

/-! ## Reading the tree -/

theorem childItems_eq_map (children : List (String × ModuleTree)) :
    childItems children = children.map fun c => Synthesis.publicModule c.1 c.2.toItems := by
  induction children with
  | nil => rfl
  | cons c children ih => rw [childItems, ih]; rfl

theorem toItems_eq (t : ModuleTree) : t.toItems = t.items ++ childItems t.children := by
  cases t; rw [ModuleTree.toItems]; rfl

/-- No item in the tree is a module itself, and no two modules next to each other share a name. -/
def Tidy (t : ModuleTree) : Prop :=
  ∀ path s, t.at? path = some s → (∀ i ∈ s.items, i.isLeaf = true) ∧ s.childNames.Nodup

theorem Tidy.child {t s : ModuleTree} (h : Tidy t) {name : String} (hs : t.child? name = some s) :
    Tidy s := by
  intro path r hr
  exact h (name :: path) r (by rw [at?, hs, Option.bind_some, hr])

theorem itemsOf?_eq_none {i : Item} (h : i.isLeaf = true) (name : String) :
    i.itemsOf? name = none := by
  cases i <;> simp_all [Item.isLeaf, Item.itemsOf?]

/-- Of the modules of a tree one at most has the name. -/
theorem filterMap_itemsOf?_toItems {t : ModuleTree} (h : Tidy t) (name : String) :
    t.toItems.filterMap (Item.itemsOf? name) = ((t.child? name).map ModuleTree.toItems).toList := by
  obtain ⟨hleaf, hnames⟩ := h [] t rfl
  have hown : t.items.filterMap (Item.itemsOf? name) = [] :=
    List.filterMap_eq_nil_iff.2 fun i hi => itemsOf?_eq_none (hleaf i hi) name
  rw [toItems_eq, List.filterMap_append, hown, List.nil_append, child?]
  rw [childNames] at hnames
  generalize t.children = children at hnames
  induction children with
  | nil => rfl
  | cons c children ih =>
    obtain ⟨n, s⟩ := c
    obtain ⟨hnew, hrest⟩ := List.nodup_cons.1 hnames
    rw [childItems, List.filterMap_cons, ih hrest]
    by_cases hn : n = name
    · have hnone : children.find? (·.1 = name) = none := by
        rw [List.find?_eq_none]
        rintro c hc
        rw [decide_eq_true_eq]
        intro heq
        exact hnew (List.mem_map.2 ⟨c, hc, heq.trans hn.symm⟩)
      simp [Synthesis.publicModule, Item.itemsOf?, hn, hnone]
    · simp [Synthesis.publicModule, Item.itemsOf?, hn]

/-- **Reading a tree back**: its items have the one body at a path that the tree has there. -/
theorem bodiesAt_toItems {t : ModuleTree} (h : Tidy t) (path : List String) :
    bodiesAt path t.toItems = ((t.at? path).map ModuleTree.toItems).toList := by
  induction path generalizing t with
  | nil => rfl
  | cons name path ih =>
    rw [bodiesAt, filterMap_itemsOf?_toItems h, at?]
    cases hs : t.child? name with
    | none => rfl
    | some s => simp [ih (h.child hs)]

theorem mem_foldl_withName {name : String} {names found : List String} :
    name ∈ names.foldl withName found ↔ name ∈ found ∨ name ∈ names := by
  induction names generalizing found with
  | nil => simp
  | cons n names ih =>
    rw [List.foldl_cons, ih, withName]
    split
    · rename_i hn
      constructor
      · grind
      · rintro (h | h)
        · exact .inl h
        · obtain rfl | h := List.mem_cons.1 h
          · exact .inl hn
          · exact .inr h
    · simp [or_assoc]

theorem nodup_foldl_withName {names found : List String} (h : found.Nodup) :
    (names.foldl withName found).Nodup := by
  induction names generalizing found with
  | nil => exact h
  | cons n names ih =>
    refine ih ?_
    rw [withName]
    split
    · exact h
    · rename_i hn
      exact List.nodup_append.2 ⟨h, List.pairwise_singleton _ n, by grind⟩

theorem isLeaf_of_mem_leavesAt {path : List String} {items : List Item} {i : Item}
    (h : i ∈ leavesAt path items) : i.isLeaf = true := by
  obtain ⟨body, -, hi⟩ := List.mem_flatMap.1 h
  exact (List.mem_filter.1 hi).2

section

variable (path : List String) (targets references : List SourceUnit)

theorem isLeaf_of_mem_leavesOf {units : List SourceUnit} {i : Item} (h : i ∈ leavesOf path units) :
    i.isLeaf = true := by
  obtain ⟨u, -, hi⟩ := List.mem_flatMap.1 h
  exact isLeaf_of_mem_leavesAt hi

theorem isLeaf_of_mem_given {i : Item} (h : i ∈ given path targets references) :
    i.isLeaf = true := by
  obtain h | h := List.mem_append.1 h
  · exact isLeaf_of_mem_leavesOf path (List.mem_filter.1 h).1
  · exact isLeaf_of_mem_leavesOf path h

theorem tidy_mergeTree : Tidy (mergeTree targets references) := by
  intro path s hs
  have hitems := items_mergeTree path targets references
  have hnames := childNames_mergeTree path targets references
  rw [hs, Option.getD_some] at hitems hnames
  constructor
  · intro i hi
    rw [hitems] at hi
    exact isLeaf_of_mem_given path targets references (mem_of_mem_settled hi)
  · rw [hnames]
    exact nodup_foldl_withName List.nodup_nil

theorem bodiesAt_merge :
    bodiesAt path (merge targets references).items =
      (((mergeTree targets references).at? path).map ModuleTree.toItems).toList :=
  bodiesAt_toItems (tidy_mergeTree targets references) path

end

/-! ## What a module of the crate holds -/

theorem bodiesAt_append (path rest : List String) (items : List Item) :
    bodiesAt (path ++ rest) items = (bodiesAt path items).flatMap (bodiesAt rest) := by
  induction path generalizing items with
  | nil => rw [List.nil_append, bodiesAt, List.flatMap_singleton]
  | cons n path ih =>
    rw [List.cons_append, bodiesAt, bodiesAt, List.flatMap_assoc]
    exact congrArg (List.flatMap · _) (funext ih)

theorem mem_moduleNames {name : String} {body : List Item} :
    name ∈ body.filterMap Item.moduleName? ↔ bodiesAt [name] body ≠ [] := by
  have hname : ∀ i : Item, i.moduleName? = some name ↔ (i.itemsOf? name).isSome = true := by
    intro i
    cases i <;> simp [Item.moduleName?, Item.itemsOf?]
  simp only [bodiesAt, List.flatMap_singleton', ne_eq, List.filterMap_eq_nil_iff, not_forall,
    List.mem_filterMap, hname, Option.isSome_iff_ne_none, exists_prop]

theorem mem_moduleNamesAt {path : List String} {name : String} {items : List Item} :
    name ∈ moduleNamesAt path items ↔ bodiesAt (path ++ [name]) items ≠ [] := by
  simp only [moduleNamesAt, List.mem_flatMap, bodiesAt_append, ne_eq, List.flatMap_eq_nil_iff,
    not_forall, mem_moduleNames, exists_prop]

theorem filterMap_moduleName?_toItems {t : ModuleTree} (h : ∀ i ∈ t.items, i.isLeaf = true) :
    t.toItems.filterMap Item.moduleName? = t.childNames := by
  have hown : t.items.filterMap Item.moduleName? = [] := by
    refine List.filterMap_eq_nil_iff.2 fun i hi => ?_
    have := h i hi
    cases i <;> simp_all [Item.isLeaf, Item.moduleName?]
  rw [toItems_eq, List.filterMap_append, hown, List.nil_append, childItems_eq_map, List.filterMap_map,
    childNames]
  exact List.filterMap_eq_map ▸ rfl

theorem filter_isLeaf_toItems {t : ModuleTree} (h : ∀ i ∈ t.items, i.isLeaf = true) :
    t.toItems.filter Item.isLeaf = t.items := by
  have hinner : (childItems t.children).filter Item.isLeaf = [] := by
    rw [childItems_eq_map, List.filter_eq_nil_iff]
    intro i hi
    obtain ⟨c, -, rfl⟩ := List.mem_map.1 hi
    simp [Synthesis.publicModule, Item.isLeaf]
  rw [toItems_eq, List.filter_append, hinner, List.append_nil, List.filter_eq_self]
  exact h

section

variable (path : List String) (targets references : List SourceUnit)

theorem filter_key_given (k : ItemKey) :
    ((given path targets references).filter fun i => i.key? = some k) =
      (leavesOf path (references ++ targets)).filter fun i => i.key? = some k := by
  have hkeyed : ∀ i : Item, (decide (i.key? = some k) && i.key?.isSome) = decide (i.key? = some k) := by
    intro i
    by_cases hi : i.key? = some k <;> simp [hi]
  simp only [given, leavesOf, List.flatMap_append, List.filter_append, List.filter_filter, hkeyed]

theorem filter_other_given :
    ((given path targets references).filter fun i => i.key? = none) =
      (leavesOf path targets).filter fun i => i.key? = none := by
  have hnone : ∀ i : Item, (decide (i.key? = none) && i.key?.isSome) = false := by
    intro i
    cases i.key? <;> rfl
  simp only [given, List.filter_append, List.filter_filter, hnone]
  simp

end

theorem isImportOf_iff {u : UseDecl} {i : Item} : i.isImportOf u = true ↔ i = .use u := by
  cases i <;> simp [Item.isImportOf]

/-- All imports of one kind are the same. -/
theorem getLast?_isImportOf (u : UseDecl) (items : List Item) :
    ((items.filter (Item.isImportOf u)).getLast?).toList =
      if items.any (Item.isImportOf u) then [.use u] else [] := by
  cases hlast : (items.filter (Item.isImportOf u)).getLast? with
  | none =>
    have hnone := List.filter_eq_nil_iff.1 (List.getLast?_eq_none_iff.1 hlast)
    rw [if_neg]
    · rfl
    · simpa using hnone
  | some i =>
    obtain ⟨hmem, hi⟩ := List.mem_filter.1 (List.mem_of_getLast? hlast)
    rw [if_pos (List.any_eq_true.2 ⟨i, hmem, hi⟩), isImportOf_iff.1 hi]
    rfl

section

variable {path : List String} {targets references : List SourceUnit}

/-- The one module at a path, and its own items. -/
theorem module_merge (h : path = [] ∨ ∃ u ∈ references ++ targets, bodiesAt path u.items ≠ []) :
    ∃ t, (mergeTree targets references).at? path = some t ∧
      bodiesAt path (merge targets references).items = [t.toItems] ∧
      t.toItems.filter Item.isLeaf = settled Item.key? (given path targets references) := by
  obtain ⟨t, ht⟩ := Option.isSome_iff_exists.1 ((isSome_at?_mergeTree path targets references).2 h)
  have hitems := items_mergeTree path targets references
  rw [ht, Option.getD_some] at hitems
  refine ⟨t, ht, by rw [bodiesAt_merge, ht]; rfl, ?_⟩
  rw [filter_isLeaf_toItems (tidy_mergeTree targets references path t ht).1, hitems]

/-- Only leaves have a key, so what a key keeps of a module is kept of its own items. -/
theorem filter_key_of_settled {body : List Item}
    (hown : body.filter Item.isLeaf = settled Item.key? (given path targets references))
    (k : ItemKey) : (body.filter fun i => i.key? = some k) =
      (((leavesOf path (references ++ targets)).filter fun i => i.key? = some k).getLast?).toList := by
  rw [← filter_key_given, ← filter_key_settled, ← hown, List.filter_filter]
  congr 1
  funext i
  cases i <;> simp [Item.key?, Item.isLeaf]

/-- The types of a name in a module: the last one of that name. -/
theorem filter_typeName_of_settled {body : List Item}
    (hown : body.filter Item.isLeaf = settled Item.key? (given path targets references))
    (name : String) : (body.filter fun i => typeName? i = some name) =
      (((leavesOf path (references ++ targets)).filter fun i =>
        typeName? i = some name).getLast?).toList := by
  simpa only [key?_eq_type] using filter_key_of_settled hown (.type name)

end

/-- **A merged crate settles its units.** It has one module at each path that is one of a unit. The items
of that module that are no modules are those that the units give, settled: a name has its last type, in
the place of the first, every import stands once, and all else is what the targets have there. The
modules inside it are those that the units have there, each once. -/
theorem merge_settles {path : List String} {targets references : List SourceUnit}
    (h : path = [] ∨ ∃ u ∈ references ++ targets, bodiesAt path u.items ≠ []) :
    ∃ body, bodiesAt path (merge targets references).items = [body] ∧
      body.filter Item.isLeaf = settled Item.key? (given path targets references) ∧
      (∀ name, (body.filter fun i => typeName? i = some name) =
        (((leavesOf path (references ++ targets)).filter fun i =>
          typeName? i = some name).getLast?).toList) ∧
      (∀ u, body.filter (Item.isImportOf u) =
        if (leavesOf path (references ++ targets)).any (Item.isImportOf u) then [.use u] else []) ∧
      ((body.filter Item.isLeaf).filter fun i => i.key? = none) =
        (leavesOf path targets).filter (fun i => i.key? = none) ∧
      (body.filterMap Item.moduleName?).Nodup ∧
      ∀ name, name ∈ body.filterMap Item.moduleName? ↔
        ∃ u ∈ references ++ targets, bodiesAt (path ++ [name]) u.items ≠ [] := by
  obtain ⟨t, ht, hbodies, hown⟩ := module_merge h
  have hnames := childNames_mergeTree path targets references
  rw [ht, Option.getD_some] at hnames
  obtain ⟨hleaf, hnodup⟩ := tidy_mergeTree targets references path t ht
  have himport : ∀ u, (fun i => decide (Item.key? i = some (.import u))) = Item.isImportOf u := by
    intro u
    funext i
    rw [Bool.eq_iff_iff, decide_eq_true_iff, key?_eq_import, isImportOf_iff]
  refine ⟨t.toItems, hbodies, hown, filter_typeName_of_settled hown, ?_, ?_, ?_, ?_⟩
  · intro u
    have := filter_key_of_settled hown (.import u)
    rwa [himport, getLast?_isImportOf] at this
  · rw [hown, filter_none_settled, filter_other_given]
  · rw [filterMap_moduleName?_toItems hleaf]
    exact hnodup
  · intro name
    rw [filterMap_moduleName?_toItems hleaf, hnames, mem_foldl_withName]
    simp only [List.not_mem_nil, false_or, List.mem_flatMap, mem_moduleNamesAt]

theorem merge_settles_redefined :
    let old := Synthesis.newStruct "Item"
    let new := { old with fields := .unit }
    let shared : UseDecl := ⟨[], .inherited, false, .path "shared" .glob⟩
    let elsewhere : Item := .other (.outline [] .everywhere false "rest")
    let reference : SourceUnit := ⟨none, [],
      [Synthesis.publicModule "shop" [.use shared, .struct old, elsewhere],
        Synthesis.publicModule "shop" [.struct (Synthesis.newStruct "Cart")]]⟩
    let target : SourceUnit := ⟨none, [],
      [Synthesis.publicModule "shop" [elsewhere, .use shared, .struct new, elsewhere]]⟩
    ∃ body, bodiesAt ["shop"] (merge [target] [reference]).items = [body] ∧
      body.filter Item.isLeaf =
        [.use shared, .struct new, .struct (Synthesis.newStruct "Cart"), elsewhere, elsewhere] := by
  intro old new shared elsewhere reference target
  obtain ⟨body, hbody, hown, -⟩ := @merge_settles ["shop"] [target] [reference]
    (.inr ⟨target, by simp, by simp [target, bodiesAt, Synthesis.publicModule, Item.itemsOf?]⟩)
  exact ⟨body, hbody, hown.trans rfl⟩

end Crate

end TypeFoundry
