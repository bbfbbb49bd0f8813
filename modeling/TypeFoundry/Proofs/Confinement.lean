import TypeFoundry.Proofs.Handing
import TypeFoundry.Proofs.Opening
import TypeFoundry.Proofs.Retaining
import TypeFoundry.Proofs.Written

/-!
# Units confined to the types that are allowed

Whatever is compiled later is made of the units that the arena and the store hold now, so what holds
of the types in all of them holds of all crates to come. `Confined` says that they define only types
that are allowed, and a request keeps it if the unit that it prepares defines only such types
(`Confined.serve`). The unit of a schema defines the type of the schema and nothing else
(`Schema.defines_unit`).
-/

set_option autoImplicit false

namespace TypeFoundry

open Source Crate Synthesis Files Files.Disk

/-! ## What units define -/

namespace Source

/-- The unit defines the type, as a struct or as an enum. -/
def SourceUnit.Defines (u : SourceUnit) (path : TypePath) (isStruct : Bool) : Prop :=
  ∃ body ∈ bodiesAt path.modules u.items, ∃ i ∈ body, i.kind? = some (path.name, isStruct)

/-- The unit defines only types that are allowed. -/
def SourceUnit.Within (allowed : TypePath → Bool → Prop) (u : SourceUnit) : Prop :=
  ∀ path isStruct, u.Defines path isStruct → allowed path isStruct

theorem kind?_eq_some {i : Item} {name : String} {isStruct : Bool}
    (h : i.kind? = some (name, isStruct)) : typeName? i = some name := by
  cases i <;> simp_all [Item.kind?, typeName?]

theorem exists_kind? {i : Item} {name : String} (h : typeName? i = some name) :
    ∃ isStruct, i.kind? = some (name, isStruct) := by
  cases i <;> simp_all [Item.kind?, typeName?]

theorem isLeaf_of_typeName? {i : Item} {name : String} (h : typeName? i = some name) :
    i.isLeaf = true := by
  cases i <;> simp_all [Item.isLeaf, typeName?]

/-- Units whose items look alike define the same types. -/
theorem SourceUnit.Defines.of_looksLike {u v : SourceUnit} {path : TypePath} {isStruct : Bool}
    (h : v.Defines path isStruct) (hlook : LooksLike Item.kind? u.items v.items) :
    u.Defines path isStruct := by
  obtain ⟨body, hbody, i, hi, hkind⟩ := h
  obtain ⟨body', hbody', hsame⟩ := hlook.exists_body hbody
  have hmem := List.mem_filterMap.2 ⟨i, hi, hkind⟩
  rw [← hsame] at hmem
  obtain ⟨j, hj, hkind⟩ := List.mem_filterMap.1 hmem
  exact ⟨body', hbody', j, hj, hkind⟩

/-- The types of a full name among the units are those that the units define. -/
theorem mem_typesOf {path : TypePath} {units : List SourceUnit} {i : Item} :
    i ∈ typesOf path units ↔ ∃ u ∈ units, ∃ body ∈ bodiesAt path.modules u.items,
      i ∈ body ∧ typeName? i = some path.name := by
  simp only [typesOf, leavesOf, leavesAt, List.mem_filter, List.mem_flatMap, decide_eq_true_eq]
  constructor
  · rintro ⟨⟨u, hu, body, hbody, hi, -⟩, hname⟩
    exact ⟨u, hu, body, hbody, hi, hname⟩
  · rintro ⟨u, hu, body, hbody, hi, hname⟩
    exact ⟨⟨u, hu, body, hbody, hi, isLeaf_of_typeName? hname⟩, hname⟩

theorem defines_of_mem_typesOf {path : TypePath} {units : List SourceUnit} {i : Item}
    (h : i ∈ typesOf path units) :
    ∃ u ∈ units, ∃ isStruct, i.kind? = some (path.name, isStruct) ∧ u.Defines path isStruct := by
  obtain ⟨u, hu, body, hbody, hi, hname⟩ := mem_typesOf.1 h
  obtain ⟨isStruct, hkind⟩ := exists_kind? hname
  exact ⟨u, hu, isStruct, hkind, body, hbody, i, hi, hkind⟩

theorem SourceUnit.Defines.mem_typesOf {u : SourceUnit} {path : TypePath} {isStruct : Bool}
    (h : u.Defines path isStruct) {units : List SourceUnit} (hu : u ∈ units) :
    ∃ i ∈ typesOf path units, i.kind? = some (path.name, isStruct) := by
  obtain ⟨body, hbody, i, hi, hkind⟩ := h
  exact ⟨i, Source.mem_typesOf.2 ⟨u, hu, body, hbody, hi, kind?_eq_some hkind⟩, hkind⟩

/-- Structs that are to be described are defined by a unit. -/
theorem defines_of_mem_described {units : List SourceUnit} {path : TypePath}
    (h : path ∈ (described units).map (·.path)) : ∃ u ∈ units, u.Defines path true := by
  obtain ⟨d, hd, rfl⟩ := List.mem_map.1 h
  obtain ⟨s, hs, -, hpath⟩ := mem_described.1 hd
  obtain ⟨u, hu, hs⟩ := List.mem_flatMap.1 hs
  obtain ⟨body, hbody, hs⟩ := List.mem_flatMap.1 hs
  refine ⟨u, hu, body, hbody, _, (List.mem_filter.1 hs).1, ?_⟩
  rw [hpath]
  rfl

mutual

theorem isItemName_of_item_locate {i : Item} (h : i.Named) {name : String}
    {found : List String × StructDecl} (hfound : i.locate name = some found) :
    isItemName name = true := by
  cases i with
  | struct s =>
    rw [Item.locate] at hfound
    split at hfound
    · rename_i hname
      exact hname ▸ h.1
    · cases hfound
  | module head items =>
    rw [Item.locate] at hfound
    obtain ⟨found', hfound', -⟩ := Option.map_eq_some_iff.1 hfound
    exact isItemName_of_locate h.2 hfound'
  | _ => cases hfound

/-- A struct that is found has the name of an item. -/
theorem isItemName_of_locate {items : List Item} (h : AllNamed items) {name : String}
    {found : List String × StructDecl} (hfound : locate name items = some found) :
    isItemName name = true := by
  cases items with
  | nil => cases hfound
  | cons i is =>
    rw [locate] at hfound
    split at hfound
    · rename_i hi
      exact isItemName_of_item_locate h.1 hi
    · exact isItemName_of_locate h.2 hfound

end

end Source

/-! ## Units of schemas -/

namespace Synthesis

/-- **The unit of a schema** defines its type and nothing else. -/
theorem Schema.defines_unit (s : Schema) (path : TypePath) (isStruct : Bool) :
    s.unit.Defines path isStruct ↔ path = s.path ∧ isStruct = true := by
  have hmembers : ∀ name, (∃ i ∈ s.members, i.kind? = some (name, isStruct)) ↔
      name = s.name ∧ isStruct = true := by
    intro name
    simp [Schema.members, Item.kind?, Schema.struct, newStruct, eq_comm]
  have hinner : ∀ p, (∃ body ∈ bodiesAt p s.members, ∃ i ∈ body, i.kind? = some (path.name, isStruct)) ↔
      p = [] ∧ path.name = s.name ∧ isStruct = true := by
    intro p
    cases p with
    | nil => simp [bodiesAt, hmembers]
    | cons name p =>
      have hnone : s.members.filterMap (Item.itemsOf? name) = [] := by
        rw [List.filterMap_eq_nil_iff]
        intro i hi
        refine itemsOf?_eq_none ?_ name
        simp only [Schema.members, List.mem_append, List.mem_map, List.mem_singleton] at hi
        obtain ⟨_, -, rfl⟩ | rfl := hi <;> rfl
      simp [bodiesAt, hnone]
  have henclose : ∀ modules p, (∃ body ∈ bodiesAt p (enclose modules s.members), ∃ i ∈ body,
      i.kind? = some (path.name, isStruct)) ↔ p = modules ∧ path.name = s.name ∧ isStruct = true := by
    intro modules
    induction modules with
    | nil => exact hinner
    | cons m modules ih =>
      intro p
      rw [enclose_cons]
      cases p with
      | nil => simp [bodiesAt, publicModule, Item.kind?]
      | cons name p =>
        by_cases hm : m = name
        · subst hm
          simpa [bodiesAt, publicModule, Item.itemsOf?] using ih p
        · simp [bodiesAt, publicModule, Item.itemsOf?, hm, Ne.symm hm]
  obtain ⟨modules, name⟩ := path
  rw [SourceUnit.Defines, show s.unit.items = enclose s.modules s.members from rfl,
    henclose s.modules modules, Schema.path, TypePath.mk.injEq, and_assoc]

end Synthesis

/-- The text of a schema is read as a unit that defines its type and nothing else. -/
theorem IsSchemaText.defines {name text : String} {s : Schema} (h : IsSchemaText name text s)
    {u : SourceUnit} (hread : SourceUnit.read text = .ok u) (path : TypePath) (isStruct : Bool) :
    u.Defines path isStruct ↔ path = s.path ∧ isStruct = true := by
  obtain ⟨hwell, rfl, rfl⟩ := h
  obtain ⟨s', hs', hread'⟩ := Schema.read_text hwell
  obtain rfl := Except.ok.inj (hread'.symm.trans hread)
  rw [s'.defines_unit, Schema.path, Schema.path, Schema.modules_congr hs', Schema.name_congr hs']

/-- A new type has names that items can have, and its text is that of a schema. -/
theorem isSchemaText_of_newType {name text : String} {modules : List String}
    (h : newType name modules = .ok text) : IsSchemaText name text (Schema.new name modules) := by
  unfold newType at h
  split at h
  · rename_i hnames
    obtain ⟨hname, hmodules⟩ := Bool.and_eq_true_iff.1 hnames
    exact ⟨Schema.WellFormed.new hname (List.all_eq_true.1 hmodules), rfl, Except.ok.inj h⟩
  · cases h

/-! ## The unit that is stored -/

/-- The name of a unit that is prepared is that of an item. -/
theorem Request.Prepares.isItemName {f : Foundry} {w : World} {q : Request} {name source : String}
    {path : TypePath} (h : q.Prepares f w name source path) : isItemName name = true := by
  cases h with
  | create hcheck hnew =>
    obtain ⟨hwell, -, -⟩ := isSchemaText_of_newType hnew
    exact hwell.name
  | @extend _ old _ _ _ hname hcheck hread hpath hadd =>
    unfold typePath SourceUnit.readFor SourceUnit.structNamed at hpath
    cases hunit : SourceUnit.read old with
    | error e => rw [hunit] at hpath; cases hpath
    | ok unit =>
      rw [hunit] at hpath
      cases hfound : locate name unit.items with
      | none => simp only [bind, Except.bind, hfound] at hpath; cases hpath
      | some found => exact isItemName_of_locate (SourceUnit.read_named hunit) hfound

/-- Establishing a type stores its unit and leaves all others. -/
theorem Established.unit?_eq {f f' : Foundry} {w w' : World} {name source : String} {path : TypePath}
    (h : Established f w name source path f' w') (hname : isIdentifier name = true)
    (hfresh : f.store.NotNamedFor w (w.ids w.drawn)) (unit : String) :
    f.store.unit? w' unit = if unit = name then some (.text source) else f.store.unit? w unit := by
  rw [Store.unit?, h.leads.cwd]
  split
  · rename_i hunit
    have hstored := h.stored
    rw [place_path hname] at hstored
    rw [hunit, hstored]
  · rename_i hunit
    refine h.others _ ⟨hfresh.outsideCrate unit, not_staged_unit _ unit, fun he => hunit ?_⟩
    rw [place_path hname] at he
    have hend := List.append_cancel_left he
    simpa using hend

/-- The store of a foundry stays where it is. -/
theorem Request.serve_store {q : Request} {f : Foundry} {w : World} {r : Except Halt Answer}
    {s : Foundry × World} (h : q.serve (f, w) = (r, s)) : s.1.store = f.store := by
  obtain hs | ⟨a, p, handle, -, -, -, hs⟩ := serve_foundry h <;> rw [hs]

/-! ## Confinement -/

/-- All units of the arena and of the store, as far as they can be read, define only types that are
allowed. -/
structure Confined (allowed : TypePath → Bool → Prop) (f : Foundry) (w : World) : Prop where
  loaded : ∀ u ∈ Compiler.references f.arena, u.Within allowed
  stored : ∀ name text u, f.store.unit? w name = some (.text text) →
    SourceUnit.read text = .ok u → u.Within allowed

/-- The unit that the request prepares defines only types that are allowed. -/
def Request.PreparesWithin (allowed : TypePath → Bool → Prop) (f : Foundry) (w : World) (q : Request) :
    Prop :=
  ∀ name source path u, q.Prepares f w name source path → SourceUnit.read source = .ok u →
    u.Within allowed

theorem Compiler.references_push (arena : Arena) (p : PendingModule) :
    references (arena.push p) = references arena ++ p.units.filterMap SourceUnit.read? := by
  simp [references, Arena.units, Arena.push, Arena.next, PendingModule.load]

theorem Compiler.read?_eq_some {text : String} {u : SourceUnit} :
    SourceUnit.read? text = some u ↔ SourceUnit.read text = .ok u := by
  rw [SourceUnit.read?, toOption_eq_some]

theorem Compiler.mem_filterMap_read? {texts : List String} {u : SourceUnit} :
    u ∈ texts.filterMap SourceUnit.read? ↔ ∃ text ∈ texts, SourceUnit.read text = .ok u := by
  simp only [List.mem_filterMap, read?_eq_some]

/-- Opening a foundry leaves all units. -/
theorem Foundry.start_unit? {s : Settings} {f : Foundry} {w₀ w : World}
    (hrun : (start s).run w₀ = (.ok f, w))
    (hfresh : Store.NotNamedFor ⟨s.sourceDir⟩ w₀ (w₀.ids w₀.drawn)) (name : String) :
    f.store.unit? w name = Store.unit? ⟨s.sourceDir⟩ w₀ name := by
  obtain ⟨hstore, -, -, hleads, hd⟩ := (start_ends s).of_ok hrun
  rw [hstore, Store.unit?, hleads.cwd, hd _ (hfresh.outsideCrate name)]
  rfl

/-- An open foundry is confined if the units are that were stored when it was opened. -/
theorem Foundry.start_confined {allowed : TypePath → Bool → Prop} {s : Settings} {f : Foundry}
    {w₀ w : World} (hrun : (start s).run w₀ = (.ok f, w))
    (hfresh : Store.NotNamedFor ⟨s.sourceDir⟩ w₀ (w₀.ids w₀.drawn))
    (hpreloaded : ∀ units, Preloads s w₀ units →
      ∀ u ∈ units.filterMap SourceUnit.read?, u.Within allowed)
    (hstored : ∀ name text u, Store.unit? ⟨s.sourceDir⟩ w₀ name = some (.text text) →
      SourceUnit.read text = .ok u → u.Within allowed) : Confined allowed f w := by
  obtain ⟨-, -, hstarted, -, -⟩ := (start_ends s).of_ok hrun
  refine ⟨?_, fun name text u hunit => ?_⟩
  · cases hstarted with
    | empty harena _ =>
      rw [harena]
      intro u hu
      cases hu
    | preloaded hunits hp harena _ =>
      rw [harena, Compiler.references_push, hp.units_eq]
      exact hpreloaded _ hunits
  · rw [start_unit? hrun hfresh] at hunit
    exact hstored name text u hunit

namespace Confined

variable {allowed : TypePath → Bool → Prop} {f : Foundry} {w : World} {q : Request}

/-- **A request keeps the confinement** if what it prepares is confined, in case it succeeds. -/
theorem serve {r : Except Halt Answer} {s : Foundry × World} (h : Confined allowed f w)
    (hfresh : f.store.NotNamedFor w (w.ids w.drawn)) (hrun : q.serve (f, w) = (r, s))
    (hprepared : ∀ a, r = .ok a → q.PreparesWithin allowed f w) : Confined allowed s.1 s.2 := by
  cases r with
  | error e =>
    obtain ⟨hf, hhalt⟩ := Request.serve_error hrun
    have hunits := hhalt.units hfresh
    rw [hf]
    refine ⟨h.loaded, fun name text u hunit => ?_⟩
    rw [hunits] at hunit
    exact h.stored name text u hunit
  | ok a =>
    obtain ⟨name, source, hprepares, hestablished⟩ := Request.serve_ok hrun
    have hname := isIdentifier_of_isItemName hprepares.isItemName
    have hwithin := hprepared a rfl name source a.path
    obtain ⟨p, handle, hp, -, hs⟩ := hestablished.admitted
    constructor
    · rw [hs, Compiler.references_push, hp.units_eq]
      intro u hu
      obtain hu | hu := List.mem_append.1 hu
      · exact h.loaded u hu
      · obtain ⟨text, htext, hread⟩ := Compiler.mem_filterMap_read?.1 hu
        obtain rfl := List.mem_singleton.1 htext
        exact hwithin u hprepares hread
    · rw [hs]
      intro unit text u hunit hread
      rw [hestablished.unit?_eq hname hfresh] at hunit
      split at hunit
      · obtain rfl := Content.text.inj (Option.some.inj hunit)
        exact hwithin u hprepares hread
      · exact h.stored unit text u hunit hread

end Confined

end TypeFoundry
