import TypeFoundry.Proofs.Reporting
import TypeFoundry.Proofs.Retaining

/-!
# Every described struct is reported

A merged crate has one module at most at each path, and one at the path of every described struct. So the
function of a module is appended to that module and to no other (`leavesAt_describe`), the calls of the
entry point lead to these functions, and the text that the entry point reports has the lines of every
described struct once (`crateOf_reports`).
-/

set_option autoImplicit false

namespace TypeFoundry

open Source Crate

namespace Source

/-! ## Items with one module at a path -/

/-- No path leads to more than one module. -/
def OneEach (items : List Item) : Prop := ∀ path, (bodiesAt path items).length ≤ 1

theorem leavesAt_append (path : List String) (xs ys : List Item) :
    leavesAt path (xs ++ ys) = leavesAt path xs ++ leavesAt path ys := by
  induction xs with
  | nil => rw [leavesAt_nil]; rfl
  | cons x xs ih => rw [List.cons_append, leavesAt_cons, ih, ← List.append_assoc, ← leavesAt_cons]

theorem leavesAt_leaf {i : Item} (h : i.isLeaf = true) (path : List String) :
    leavesAt path [i] = if path = [] then [i] else [] := by
  cases path with
  | nil => simp [leavesAt, bodiesAt, h]
  | cons name path => simp [leavesAt, bodiesAt, itemsOf?_eq_none h]

theorem itemsOf?_eq_some {i : Item} {name : String} {inner : List Item}
    (h : i.itemsOf? name = some inner) : ∃ head, i = .module head inner ∧ head.name = name := by
  cases i with
  | module head items =>
    rw [Item.itemsOf?] at h
    split at h
    · rename_i hname
      exact ⟨head, by rw [Option.some.inj h], hname⟩
    · cases h
  | _ => cases h

theorem changeFirst_append {α : Type} {change : α → Option α} {before after : List α} {a b : α}
    (hbefore : ∀ x ∈ before, change x = none) (ha : change a = some b) :
    changeFirst change (before ++ a :: after) = before ++ b :: after := by
  induction before with
  | nil => rw [List.nil_append, changeFirst, ha]; rfl
  | cons x before ih =>
    obtain ⟨hx, hrest⟩ := List.forall_mem_cons.1 hbefore
    rw [List.cons_append, changeFirst, hx, List.cons_append]
    simp only [ih hrest]

/-- The one module of a name among the items, with what stands before and behind it. -/
structure Splits (name : String) (items before : List Item) (head : ModuleHead)
    (inner after : List Item) : Prop where
  eq : items = before ++ .module head inner :: after
  named : head.name = name
  before : ∀ i ∈ before, i.itemsOf? name = none
  after : ∀ i ∈ after, i.itemsOf? name = none

section

variable {name : String} {path : List String} {items before inner after : List Item}
  {head : ModuleHead}

theorem OneEach.splits (h : OneEach items) (hpath : bodiesAt (name :: path) items ≠ []) :
    ∃ before head inner after, Splits name items before head inner after := by
  have hone := h [name]
  have hsingle : bodiesAt [name] items = items.filterMap (Item.itemsOf? name) :=
    List.flatMap_singleton' _
  rw [hsingle] at hone
  rw [bodiesAt] at hpath
  cases hbodies : items.filterMap (Item.itemsOf? name) with
  | nil => rw [hbodies] at hpath; exact absurd rfl hpath
  | cons inner rest =>
    rw [hbodies] at hone
    obtain rfl : rest = [] := by simpa using hone
    obtain ⟨before, i, after, hitems, hbefore, hi, hafter⟩ := List.filterMap_eq_cons_iff.1 hbodies
    obtain ⟨head, rfl, hname⟩ := itemsOf?_eq_some hi
    exact ⟨before, head, inner, after, hitems, hname, hbefore, List.filterMap_eq_nil_iff.1 hafter⟩

namespace Splits

theorem bodiesAt (h : Splits name items before head inner after) (path : List String) :
    bodiesAt (name :: path) items = Source.bodiesAt path inner := by
  have hbefore := List.filterMap_eq_nil_iff.2 h.before
  have hafter := List.filterMap_eq_nil_iff.2 h.after
  rw [h.eq, Source.bodiesAt, List.filterMap_append, List.filterMap_cons, hbefore, hafter,
    Item.itemsOf?, if_pos h.named]
  simp

theorem oneEach (h : Splits name items before head inner after) (hone : OneEach items) :
    OneEach inner := by
  intro path
  rw [← h.bodiesAt]
  exact hone (name :: path)

theorem moduleItems (h : Splits name items before head inner after) (path : List String) :
    moduleItems? (name :: path) items = moduleItems? path inner := by
  have hfirst : items.findSome? (Item.itemsOf? name) = some inner := by
    rw [h.eq, List.findSome?_append, List.findSome?_eq_none_iff.2 h.before, Option.none_or,
      List.findSome?_cons, Item.itemsOf?, if_pos h.named]
  rw [moduleItems?, hfirst]
  rfl

/-- Changing the module changes its items in their place. -/
theorem modify (h : Splits name items before head inner after) (change : List Item → List Item)
    (path : List String) : Splits name (modifyModule change (name :: path) items) before head
      (modifyModule change path inner) after := by
  refine ⟨?_, h.named, h.before, h.after⟩
  rw [modifyModule, h.eq]
  refine changeFirst_append (fun i hi => ?_) (if_pos h.named)
  have hnone := h.before i hi
  cases i with
  | module other items =>
    rw [Item.itemsOf?] at hnone
    split at hnone
    · cases hnone
    · rename_i hother
      exact if_neg hother
  | _ => rfl

/-- What stands right in a module further inside, and what in the others. -/
theorem leavesAt_inner (h : Splits name items before head inner after) (path : List String) :
    leavesAt (name :: path) items = leavesAt path inner := by
  rw [leavesAt, h.bodiesAt, leavesAt]

theorem leavesAt_outer (h : Splits name items before head inner after) {path : List String}
    (hpath : ∀ rest, path ≠ name :: rest) :
    leavesAt path items = leavesAt path before ++ leavesAt path after := by
  have hmodule : leavesAt path [Item.module head inner] = [] := by
    rw [leavesAt_module]
    split
    · rfl
    · rename_i other rest
      rw [if_neg]
      rintro rfl
      exact hpath rest (by rw [h.named])
  rw [h.eq, leavesAt_append, leavesAt_cons, hmodule, List.nil_append]

end Splits

end

/-- Where one module at most is at a path, it is the first one there. -/
theorem OneEach.moduleItems {items : List Item} (h : OneEach items) {path : List String}
    (hpath : bodiesAt path items ≠ []) : (moduleItems? path items).isSome = true := by
  induction path generalizing items with
  | nil => rfl
  | cons name path ih =>
    obtain ⟨before, head, inner, after, hsplits⟩ := h.splits hpath
    rw [hsplits.moduleItems]
    exact ih (hsplits.oneEach h) (hsplits.bodiesAt path ▸ hpath)

/-- **A leaf that is appended to a module** stands at the end of that module, and in no other. -/
theorem OneEach.leavesAt_push {items : List Item} (h : OneEach items) {leaf : Item}
    (hleaf : leaf.isLeaf = true) {path : List String} (hpath : bodiesAt path items ≠ [])
    (other : List String) :
    leavesAt other (modifyModule (· ++ [leaf]) path items) =
      leavesAt other items ++ if other = path then [leaf] else [] := by
  induction path generalizing items other with
  | nil => rw [modifyModule, leavesAt_append, leavesAt_leaf hleaf]
  | cons name path ih =>
    obtain ⟨before, head, inner, after, hsplits⟩ := h.splits hpath
    have hmodified := hsplits.modify (· ++ [leaf]) path
    by_cases hother : ∃ rest, other = name :: rest
    · obtain ⟨rest, rfl⟩ := hother
      rw [hmodified.leavesAt_inner, hsplits.leavesAt_inner,
        ih (hsplits.oneEach h) (hsplits.bodiesAt path ▸ hpath)]
      simp only [List.cons.injEq, true_and]
    · have hne : ∀ rest, other ≠ name :: rest := fun rest he => hother ⟨rest, he⟩
      rw [hmodified.leavesAt_outer hne, hsplits.leavesAt_outer hne, if_neg (hne path), List.append_nil]

/-- Items that look alike have as many modules at a path. -/
theorem LooksLike.length_bodiesAt {γ : Type} {view : Item → Option γ} {xs ys : List Item}
    (h : LooksLike view xs ys) (path : List String) :
    (bodiesAt path xs).length = (bodiesAt path ys).length := (h path).length_eq

end Source

namespace Crate

/-! ## The modules of the described structs -/

theorem modulesOf_append (ds : List Described) (d : Described) :
    modulesOf (ds ++ [d]) = if d.path.modules ∈ modulesOf ds then modulesOf ds
      else modulesOf ds ++ [d.path.modules] := by
  rw [modulesOf, List.foldl_append, List.foldl_cons, List.foldl_nil, ← modulesOf]
  simp only [List.contains_iff_mem]

/-- The modules of the structs are those that occur, in the order in which they first do. -/
theorem modulesOf_eq (ds : List Described) : modulesOf ds = (ds.map (·.path.modules)).eraseDups := by
  induction ds using List.reverseRecOn with
  | nil => rfl
  | append_singleton ds d ih =>
    simp only [modulesOf_append, ih, List.map_append, List.map_singleton, eraseDups_concat,
      List.mem_eraseDups]

theorem mem_modulesOf {ds : List Described} {path : List String} :
    path ∈ modulesOf ds ↔ ∃ d ∈ ds, d.path.modules = path := by
  rw [modulesOf_eq, List.mem_eraseDups, List.mem_map]

theorem nodup_modulesOf (ds : List Described) : (modulesOf ds).Nodup := by
  induction ds using List.reverseRecOn with
  | nil => exact List.nodup_nil
  | append_singleton ds d ih =>
    rw [modulesOf_append]
    split
    · exact ih
    · rename_i hd
      rw [List.nodup_append]
      refine ⟨ih, List.pairwise_singleton _ _, ?_⟩
      rintro a ha b hb rfl
      rw [List.mem_singleton.1 hb] at ha
      exact hd ha

/-- The structs of the module at the path, in their order. -/
def standingIn (path : List String) (ds : List Described) : List Described :=
  ds.filter fun d => d.path.modules = path

theorem modules_of_mem_standingIn {path : List String} {ds : List Described} {d : Described}
    (h : d ∈ standingIn path ds) : d.path.modules = path :=
  of_decide_eq_true (List.mem_filter.1 h).2

/-- Module by module, every struct comes once. -/
theorem flatMap_standingIn_perm {paths : List (List String)} (hnodup : paths.Nodup)
    (ds : List Described) :
    (paths.flatMap fun path => standingIn path ds).Perm
      (ds.filter fun d => d.path.modules ∈ paths) := by
  induction paths with
  | nil => simp
  | cons path paths ih =>
    obtain ⟨hnew, hnodup⟩ := List.nodup_cons.1 hnodup
    have hparts := List.filter_append_perm (fun d : Described => decide (d.path.modules = path))
      (ds.filter fun d => d.path.modules ∈ path :: paths)
    simp only [List.filter_filter] at hparts
    rw [List.flatMap_cons]
    refine ((ih hnodup).append_left _).trans (List.Perm.trans (.of_eq ?_) hparts)
    congr 1
    · refine List.filter_congr fun d _ => ?_
      by_cases hd : d.path.modules = path <;> simp [hd]
    · refine List.filter_congr fun d _ => ?_
      by_cases hd : d.path.modules = path
      · simp [hd, hnew]
      · simp [hd]

theorem modulesOf_flatMap_perm (ds : List Described) :
    ((modulesOf ds).flatMap fun path => standingIn path ds).Perm ds := by
  refine (flatMap_standingIn_perm (nodup_modulesOf ds) ds).trans (.of_eq ?_)
  rw [List.filter_eq_self]
  exact fun d hd => decide_eq_true (mem_modulesOf.2 ⟨d, hd, rfl⟩)

/-! ## Where the functions stand -/

theorem oneEach_merge (targets references : List SourceUnit) :
    OneEach (merge targets references).items := by
  intro path
  rw [bodiesAt_merge]
  cases (mergeTree targets references).at? path <;> simp

/-- The module of a described struct is in the merged crate. -/
theorem bodiesAt_merge_ne_nil {targets references : List SourceUnit} {path : List String}
    (h : path ∈ modulesOf (described targets)) :
    bodiesAt path (merge targets references).items ≠ [] := by
  obtain ⟨d, hd, rfl⟩ := mem_modulesOf.1 h
  obtain ⟨s, hs, -, -⟩ := mem_described.1 hd
  obtain ⟨u, hu, hbodies⟩ := bodiesAt_ne_nil_of_mem_leavesOf hs
  obtain ⟨t, -, hmodule, -⟩ := @module_merge d.path.modules targets references
    (.inr ⟨u, List.mem_append_right _ hu, hbodies⟩)
  rw [hmodule]
  exact List.cons_ne_nil _ _

theorem looksLike_describeModule (ds : List Described) (items : List Item) (path : List String) :
    LooksLike Item.type? items (describeModule ds items path) :=
  looksLike_modifyModule (fun _ _ => rfl) (looksLike_append_other _) path items

/-- The functions are appended to the modules one after the other. -/
theorem leavesAt_foldl_describeModule (ds : List Described) {paths : List (List String)}
    {items : List Item} (hone : OneEach items) (hpaths : ∀ path ∈ paths, bodiesAt path items ≠ [])
    (hnodup : paths.Nodup) (other : List String) :
    leavesAt other (paths.foldl (describeModule ds) items) = leavesAt other items ++
      if other ∈ paths then [describeFunction (standingIn other ds)] else [] := by
  induction paths generalizing items with
  | nil => simp
  | cons path paths ih =>
    obtain ⟨hnew, hnodup⟩ := List.nodup_cons.1 hnodup
    obtain ⟨hpath, hpaths⟩ := List.forall_mem_cons.1 hpaths
    have hlength := (looksLike_describeModule ds items path).length_bodiesAt
    have hone' : OneEach (describeModule ds items path) := fun p => hlength p ▸ hone p
    have hpaths' : ∀ p ∈ paths, bodiesAt p (describeModule ds items path) ≠ [] := fun p hp => by
      rw [← List.length_pos_iff, ← hlength p, List.length_pos_iff]
      exact hpaths p hp
    rw [List.foldl_cons, ih hone' hpaths' hnodup, describeModule, hone.leavesAt_push rfl hpath]
    by_cases hother : other = path
    · simp [hother, hnew, standingIn]
    · simp [hother]

section

variable (targets references : List SourceUnit)

/-- The module of every described struct is found. -/
theorem moduleItems_merge {path : List String} (h : path ∈ modulesOf (described targets)) :
    (moduleItems? path (merge targets references).items).isSome = true :=
  (oneEach_merge targets references).moduleItems (bodiesAt_merge_ne_nil h)

theorem crateOf_items : (Compiler.crateOf targets references).items =
    (modulesOf (described targets)).foldl (describeModule (described targets))
      (merge targets references).items ++ [entryFunction (modulesOf (described targets))] := by
  have hfound : ((modulesOf (described targets)).filter fun path =>
      (moduleItems? path (merge targets references).items).isSome) = modulesOf (described targets) :=
    List.filter_eq_self.2 fun path hpath => moduleItems_merge targets references hpath
  rw [Compiler.crateOf, describe]
  simp only [hfound]

/-- **Describing a crate** appends the function of a module to each module of a described struct, and
the entry point to the crate; nothing else comes to a module, and nothing goes. -/
theorem leavesAt_crateOf (path : List String) :
    leavesAt path (Compiler.crateOf targets references).items =
      leavesAt path (merge targets references).items ++
        (if path ∈ modulesOf (described targets) then
          [describeFunction (standingIn path (described targets))] else []) ++
        if path = [] then [entryFunction (modulesOf (described targets))] else [] := by
  rw [crateOf_items, leavesAt_append, leavesAt_leaf rfl,
    leavesAt_foldl_describeModule _ (oneEach_merge targets references)
      (fun _ => bodiesAt_merge_ne_nil) (nodup_modulesOf _)]

theorem length_bodiesAt_crateOf {path : List String} (h : path ∈ modulesOf (described targets)) :
    (bodiesAt path (Compiler.crateOf targets references).items).length = 1 := by
  have hlook := describe_looksLike (merge targets references) (described targets)
  have hpos := List.length_pos_iff.2 (@bodiesAt_merge_ne_nil targets references path h)
  have hone := oneEach_merge targets references path
  rw [Compiler.crateOf, ← hlook.length_bodiesAt]
  omega

/-! ## What the entry point reports -/

theorem render_flatMap (paths : List (List String)) (layouts : List String → List TypeLayout) :
    Descriptor.render (paths.flatMap layouts) =
      String.join (paths.map fun path => Descriptor.render (layouts path)) := by
  induction paths with
  | nil => rfl
  | cons path paths ih =>
    rw [List.map_cons, String.join_cons, ← ih, List.flatMap_cons]
    simp only [Descriptor.render, List.flatMap_append, String.join_append]

variable (m : Measures)

/-- The path of each call leads to the function that was appended, which writes the lines of its structs. -/
theorem answers_crateOf {path : List String} (h : path ∈ modulesOf (described targets)) :
    Answers m (Compiler.crateOf targets references) ("crate" :: path ++ [moduleFunction])
      (Descriptor.render ((standingIn path (described targets)).map m.layout)) := by
  refine ⟨path, moduleFunction, (standingIn path (described targets)).flatMap statements, rfl, ?_, ?_⟩
  · rw [functionsAt, List.mem_filterMap]
    refine ⟨describeFunction (standingIn path (described targets)), ?_, rfl⟩
    rw [leavesAt_crateOf, if_pos h]
    simp
  · exact writes_statements m fun d hd => modules_of_mem_standingIn hd

theorem reports_crateOf : Reports m (Compiler.crateOf targets references)
    (Descriptor.render (((modulesOf (described targets)).flatMap fun path =>
      standingIn path (described targets)).map m.layout)) := by
  let textOf (path : List String) : String :=
    Descriptor.render ((standingIn path (described targets)).map m.layout)
  refine ⟨entryFunction (modulesOf (described targets)), ?_, _,
    (modulesOf (described targets)).map textOf, entryCalls_entryFunction _, ?_, ?_⟩
  · rw [leavesAt_crateOf, if_pos rfl]
    simp
  · rw [List.forall₂_map_left_iff, List.forall₂_map_right_iff, List.forall₂_same]
    exact fun path hpath => answers_crateOf targets references m hpath
  · rw [List.map_flatMap, render_flatMap]

/-- **Every described struct is reported once.** The modules of the described structs are looked up in the
order in which they first occur, each is found in the merged crate, and just to these a function is
appended, which writes the lines of the structs of its module in their order. The entry point calls these
functions and no other, each once, and what it reports are the lines of all described structs. -/
theorem crateOf_reports (targets references : List SourceUnit) (m : Measures) :
    let ds := described targets
    let merged := merge targets references
    let crate := Compiler.crateOf targets references
    let modules := modulesOf ds
    modules = (ds.map (·.path.modules)).eraseDups ∧
      (∀ path ∈ modules, (moduleItems? path merged.items).isSome = true ∧
        (bodiesAt path crate.items).length = 1) ∧
      (∀ path, leavesAt path crate.items = leavesAt path merged.items ++
        (if path ∈ modules then [describeFunction (standingIn path ds)] else []) ++
        if path = [] then [entryFunction modules] else []) ∧
      (∀ path ∈ modules, Writes m path ((standingIn path ds).flatMap statements)
        (Descriptor.render ((standingIn path ds).map m.layout))) ∧
      entryCalls? (entryFunction modules) =
        some (modules.map fun path => "crate" :: path ++ [moduleFunction]) ∧
      Reports m crate
        (Descriptor.render ((modules.flatMap fun path => standingIn path ds).map m.layout)) ∧
      (modules.flatMap fun path => standingIn path ds).Perm ds := by
  refine ⟨modulesOf_eq _, fun path hpath => ⟨moduleItems_merge targets references hpath,
    length_bodiesAt_crateOf targets references hpath⟩, leavesAt_crateOf targets references,
    fun path _ => writes_statements m fun d hd => modules_of_mem_standingIn hd,
    entryCalls_entryFunction _, reports_crateOf targets references m, modulesOf_flatMap_perm _⟩

end

end Crate

end TypeFoundry
