import TypeFoundry.Proofs.SchemaReading

/-!
# Adding a field to a schema

In the unit of a schema the struct is found in the modules around it, and it is the only one of its
name (`structsNamed_unit`). A further field is pushed on the schema (`Schema.push`), and `addField`
turns the text of the schema into the text of the schema with that field, or refuses the request
(`addField_pushes`).
-/

set_option autoImplicit false

namespace TypeFoundry.Source

mutual

/-- All structs of that name in the item, each with the modules between the item and it. -/
def Item.structsNamed (name : String) : Item → List (List String × StructDecl)
  | .struct s => if s.name = name then [([], s)] else []
  | .module head items => (structsNamed name items).map fun (path, s) => (head.name :: path, s)
  | _ => []

/-- All structs of that name in the items, each with the modules around it. -/
def structsNamed (name : String) : List Item → List (List String × StructDecl)
  | [] => []
  | i :: is => i.structsNamed name ++ structsNamed name is

end

end TypeFoundry.Source

namespace TypeFoundry.Synthesis

open Source

/-! ## Finding the struct -/

theorem enclose_cons (m : String) (modules : List String) (items : List Item) :
    enclose (m :: modules) items = [publicModule m (enclose modules items)] := rfl

namespace Schema

variable (s : Schema)

theorem structsNamed_members : structsNamed s.name s.members = [([], s.struct)] := by
  have himports : ∀ (paths : List (List String)) (items : List Item),
      structsNamed s.name (paths.map (fun path => .use (importOf path)) ++ items) =
        structsNamed s.name items := by
    intro paths items
    induction paths with
    | nil => rfl
    | cons path paths ih => simpa [structsNamed, Item.structsNamed] using ih
  rw [members, himports]
  simp [structsNamed, Item.structsNamed, struct, newStruct]

theorem structsNamed_unit : structsNamed s.name s.unit.items = [(s.modules, s.struct)] := by
  have henclose : ∀ modules : List String,
      structsNamed s.name (enclose modules s.members) = [(modules, s.struct)] := by
    intro modules
    induction modules with
    | nil => exact s.structsNamed_members
    | cons m modules ih =>
      rw [enclose_cons]
      simp [structsNamed, Item.structsNamed, publicModule, ih]
  exact henclose s.modules

end Schema

mutual

/-- The first struct of a name is the first of all of them. -/
theorem Item.locate_eq_head (name : String) (i : Item) :
    i.locate name = (i.structsNamed name).head? := by
  cases i with
  | module head items =>
    rw [Item.locate, Item.structsNamed, locate_eq_head name items, List.head?_map]
  | struct s =>
    simp only [Item.locate, Item.structsNamed]
    split <;> rfl
  | use u => rfl
  | enum e => rfl
  | other d => rfl

theorem locate_eq_head (name : String) (items : List Item) :
    locate name items = (structsNamed name items).head? := by
  cases items with
  | nil => rfl
  | cons i is =>
    rw [locate, structsNamed, Item.locate_eq_head name i, locate_eq_head name is, List.head?_append]
    cases (i.structsNamed name).head? <;> rfl

end

namespace Schema

variable (s : Schema)

theorem structNamed_unit : s.unit.structNamed s.name = .ok (s.modules, s.struct) := by
  rw [SourceUnit.structNamed, locate_eq_head, structsNamed_unit]
  rfl

theorem moduleItems_unit : moduleItems? s.modules s.unit.items = some s.members := by
  have henclose : ∀ modules : List String,
      moduleItems? modules (enclose modules s.members) = some s.members := by
    intro modules
    induction modules with
    | nil => rfl
    | cons m modules ih =>
      rw [enclose_cons]
      simp [moduleItems?, Item.itemsOf?, publicModule, ih]
  exact henclose s.modules

theorem modifyModule_enclose (change : List Item → List Item) (modules : List String)
    (items : List Item) :
    modifyModule change modules (enclose modules items) = enclose modules (change items) := by
  induction modules with
  | nil => rfl
  | cons m modules ih =>
    rw [enclose_cons, enclose_cons]
    simp [modifyModule, changeFirst, publicModule, ih]

theorem isFinished_unit : areFinished s.unit.items = true := by
  have hmembers : areFinished s.members = true := by
    rw [members]
    induction s.imports with
    | nil => rfl
    | cons path paths ih => simpa [areFinished, Item.isFinished] using ih
  have henclose : ∀ modules : List String, areFinished (enclose modules s.members) = true := by
    intro modules
    induction modules with
    | nil => exact hmembers
    | cons m modules ih =>
      rw [enclose_cons]
      simp [areFinished, Item.isFinished, publicModule, ih]
  exact henclose s.modules

/-! ## Pushing a field -/

/-- The paths with one more, unless it is there. -/
def withImport : Option (List String) → List (List String) → List (List String)
  | none, paths => paths
  | some path, paths => if path ∈ paths then paths else paths ++ [path]

/-- The schema with one more field and the import that its type needs. -/
def push (f : SchemaField) (needed : Option (List String)) : Schema :=
  { s with imports := withImport needed s.imports, fields := s.fields ++ [f] }

theorem plain_push (f : SchemaField) (needed : Option (List String)) :
    (s.push f needed).plain = s.plain.push f.plain needed := by
  simp [push, plain]

theorem push_congr {s s' : Schema} (h : s'.plain = s.plain) (f : SchemaField)
    (needed : Option (List String)) : (s'.push f needed).plain = (s.push f needed).plain := by
  rw [plain_push, plain_push, h]

theorem WellFormed.push {s : Schema} (h : s.WellFormed) {f : SchemaField} (hf : f.WellFormed)
    {needed : Option (List String)} (hn : ∀ path ∈ needed, ∀ w ∈ path, isUseName w = true) :
    (s.push f needed).WellFormed := by
  refine ⟨h.name, h.modules, fun path hp => ?_, fun g hg => ?_⟩
  · have : path ∈ s.imports ∨ path ∈ needed := by
      cases needed with
      | none => exact .inl hp
      | some new =>
        simp only [Schema.push, withImport] at hp
        split at hp
        · exact .inl hp
        · simpa [eq_comm] using hp
    exact this.elim (h.imports path) (hn path)
  · obtain hg | hg := List.mem_append.1 hg
    · exact h.fields g hg
    · exact List.mem_singleton.1 hg ▸ hf

theorem importOf_injective {p q : List String} (h : importOf p = importOf q) : p = q := by
  have htree : p.foldr UseTree.path .glob = q.foldr UseTree.path .glob := by
    simpa [importOf, importTree] using h
  clear h
  induction p generalizing q with
  | nil => cases q with | nil => rfl | cons w q => cases htree
  | cons v p ih =>
    cases q with
    | nil => cases htree
    | cons w q =>
      simp only [List.foldr_cons, UseTree.path.injEq] at htree
      rw [htree.1, ih htree.2]

theorem insertImport_members (path : List String) :
    insertImport (importOf path) s.members =
      (withImport (some path) s.imports).map (fun path => .use (importOf path)) ++
        [.struct s.struct] := by
  have hany : s.members.any (Item.isImportOf (importOf path)) = decide (path ∈ s.imports) := by
    rw [Bool.eq_iff_iff]
    simp only [members, List.any_append, List.any_map, List.any_cons, List.any_nil, Bool.or_false,
      Item.isImportOf, List.any_eq_true, decide_eq_true_eq, Function.comp_def]
    constructor
    · rintro ⟨p, hp, he⟩
      exact importOf_injective he ▸ hp
    · exact fun h => ⟨path, h, rfl⟩
  have hbehind : (s.members.reverse.takeWhile fun item => !item.isImport).length = 1 := by
    have himports : ∀ paths : List (List String),
        (paths.map fun p => Item.use (importOf p)).takeWhile (fun i => !i.isImport) = [] := by
      intro paths
      cases paths <;> rfl
    have hlast : (!(Item.struct s.struct).isImport) = true := rfl
    rw [members, List.reverse_append, List.reverse_singleton, List.singleton_append,
      List.takeWhile_cons, if_pos hlast, ← List.map_reverse, himports]
    rfl
  simp only [insertImport, hany, hbehind, withImport]
  by_cases hmem : path ∈ s.imports
  · simp [hmem, members]
  · simp [hmem, members]

theorem pushFieldOn_members (f : SchemaField) (paths : List (List String)) :
    pushFieldOn s.name f.field (paths.map (fun path => .use (importOf path)) ++ [.struct s.struct]) =
      paths.map (fun path => .use (importOf path)) ++
        [.struct ({ s with fields := s.fields ++ [f] } : Schema).struct] := by
  induction paths with
  | nil =>
    simp [pushFieldOn, changeFirst, Item.structNamed?, pushField, struct, newStruct]
  | cons path paths ih =>
    have hskip : ∀ items, pushFieldOn s.name f.field (.use (importOf path) :: items) =
        .use (importOf path) :: pushFieldOn s.name f.field items := fun items => rfl
    rw [List.map_cons, List.cons_append, hskip, ih]
    rfl

/-- **Editing the items** of the type's module pushes the field on the schema. -/
theorem editItems_members (f : SchemaField) (needed : Option (List String)) :
    editItems s.name f.field (needed.map importOf) s.members = (s.push f needed).members := by
  cases needed with
  | none => exact s.pushFieldOn_members f s.imports
  | some path =>
    simp only [editItems, Option.map_some, insertImport_members, pushFieldOn_members]
    rfl

end Schema

/-! ## Adding a field -/

/-- What the field of a request holds, if that can be said. -/
def valueType? (resolve : TypePath → Option TypePath) (r : FieldRequest) : Option ValueType :=
  match primitiveName? r.kind with
  | some name => some (.primitive name)
  | none => ((TypePath.parse (Text.trim (r.target.getD ""))).bind resolve).map fun p =>
      .reference p false false

/-- The modules of the type that a request refers to, if they are others than the given ones. -/
def foreignModules? (resolve : TypePath → Option TypePath) (current : List String)
    (r : FieldRequest) : Option (List String) :=
  match primitiveName? r.kind with
  | some _ => none
  | none => ((TypePath.parse (Text.trim (r.target.getD ""))).bind resolve).bind fun p =>
      if p.modules = current then none else some p.modules

/-- The type of an accepted field can be written, and the import that it needs is that of the modules
of the type that is referred to. -/
theorem fieldType_ok {resolve : TypePath → Option TypePath} {current : List String}
    {r : FieldRequest} {t : Ty} {needed : Option UseDecl}
    (h : fieldType resolve current r = .ok (t, needed)) :
    ∃ v : ValueType, valueType? resolve r = some v ∧ v.WellFormed ∧ t = v.ty ∧
      needed = (foreignModules? resolve current r).map importOf ∧
      ∀ p ∈ foreignModules? resolve current r, ∀ w ∈ p, isUseName w = true := by
  unfold fieldType at h
  split at h
  · rename_i name hname
    obtain ⟨rfl, rfl⟩ := Prod.mk.inj (Except.ok.inj h)
    have hforeign : foreignModules? resolve current r = none := by rw [foreignModules?, hname]
    rw [hforeign]
    refine ⟨.primitive name, by simp [valueType?, hname], ?_, rfl, rfl, by simp⟩
    have hnames : ∀ kind name, primitiveName? kind = some name → isItemName name = true := by
      intro kind name hk
      cases kind <;> cases hk <;> decide
    exact hnames _ _ hname
  · rename_i hname
    dsimp only at h
    split at h
    · cases h
    · split at h
      · cases h
      · rename_i target htarget
        have hforeign : foreignModules? resolve current r =
            if target.modules = current then none else some target.modules := by
          rw [foreignModules?, hname, htarget]
          rfl
        split at h
        · cases h
        · rename_i hsegments
          have hwell : (ValueType.reference target false false).WellFormed := by
            intro w hw
            exact List.all_eq_true.1 (by simpa using hsegments) w hw
          have hvalue : valueType? resolve r = some (.reference target false false) := by
            simp [valueType?, hname, htarget]
          split at h
          · rename_i hmodules
            obtain ⟨rfl, rfl⟩ := Prod.mk.inj (Except.ok.inj h)
            rw [hforeign, if_pos hmodules]
            exact ⟨_, hvalue, hwell, rfl, rfl, by simp⟩
          · rename_i hmodules
            split at h
            · cases h
            · rename_i huse
              obtain ⟨rfl, rfl⟩ := Prod.mk.inj (Except.ok.inj h)
              rw [hforeign, if_neg hmodules]
              refine ⟨_, hvalue, hwell, rfl, rfl, ?_⟩
              rintro p ⟨⟩ w hw
              exact List.all_eq_true.1 (by simpa using huse) w hw

/-- The request for a field is refused with `e`: the field is there already, or its type cannot be
declared. -/
def Refuses (s : Schema) (resolve : TypePath → Option TypePath) (r : FieldRequest) (e : Halt) : Prop :=
  e = .failure (.duplicateField s.name r.name) ∨ fieldType resolve s.modules r = .error e

/-- A refusal is one of three failures, or the request is aborted. -/
theorem Refuses.cases {s : Schema} {resolve : TypePath → Option TypePath} {r : FieldRequest}
    {e : Halt} (h : Refuses s resolve r e) :
    e = .failure (.duplicateField s.name r.name) ∨ e = .failure (.invalidReference r.name) ∨
      (∃ requested, e = .failure (.unknownReference requested)) ∨ e = .aborted := by
  refine h.imp_right fun h => ?_
  unfold fieldType at h
  dsimp only at h
  repeat' split at h
  all_goals cases h
  · exact .inl rfl
  · exact .inr (.inl ⟨_, rfl⟩)
  · exact .inr (.inr rfl)
  · exact .inr (.inr rfl)

/-- No request is aborted if the resolved paths can be written. -/
theorem Refuses.ne_aborted {s : Schema} {resolve : TypePath → Option TypePath} {r : FieldRequest}
    {e : Halt} (h : Refuses s resolve r e)
    (hresolve : ∀ p q, resolve p = some q → ∀ w ∈ q.segments, isUseName w = true) :
    e ≠ .aborted := by
  rintro rfl
  obtain h | h := h
  · cases h
  · unfold fieldType at h
    dsimp only at h
    split at h
    · cases h
    · split at h
      · cases h
      · split at h
        · cases h
        · rename_i target htarget
          obtain ⟨p, -, hp⟩ := Option.bind_eq_some_iff.1 htarget
          have huse := hresolve p target hp
          have hpath : target.segments.all isPathName = true :=
            List.all_eq_true.2 fun w hw => (Bool.and_eq_true_iff.1 (huse w hw)).1
          have hmodules : target.modules.all isUseName = true :=
            List.all_eq_true.2 fun w hw => huse w (List.mem_append_left _ hw)
          simp only [hpath, hmodules, Bool.not_true, Bool.false_eq_true, ↓reduceIte] at h
          split at h <;> cases h

theorem Refuses.congr {s s' : Schema} {resolve : TypePath → Option TypePath} {r : FieldRequest}
    {e : Halt} (h : Refuses s' resolve r e) (hs : s'.plain = s.plain) : Refuses s resolve r e := by
  rwa [Refuses, Schema.name_congr hs, Schema.modules_congr hs] at h

/-- The names of the fields of the struct. -/
def Schema.fieldNames (s : Schema) : List String :=
  identityField :: displayNameField :: s.fields.map SchemaField.name

theorem Schema.fieldNames_congr {s s' : Schema} (h : s'.plain = s.plain) :
    s'.fieldNames = s.fieldNames := by
  have hplain : ∀ s : Schema, s.plain.fieldNames = s.fieldNames := by
    intro s
    simp [fieldNames, plain, SchemaField.plain, Function.comp_def]
  rw [← hplain s', h, hplain]

theorem Schema.fieldNames_eq (s : Schema) :
    s.fieldNames = (Schema.commonFields ++ s.fields.map SchemaField.field).map (·.name) := by
  simp [fieldNames, commonFields, identity, displayName, publicField, SchemaField.field,
    Function.comp_def]

theorem Schema.any_fieldName (s : Schema) (name : String) :
    ((Schema.commonFields ++ s.fields.map SchemaField.field).any (·.name = name)) =
      decide (name ∈ s.fieldNames) := by
  rw [Schema.fieldNames_eq, Bool.eq_iff_iff, List.any_eq_true, decide_eq_true_iff, List.mem_map]
  simp only [decide_eq_true_eq]

theorem Schema.findSome_members (s : Schema) :
    s.members.findSome? (Item.structNamed? s.name) = some s.struct := by
  rw [members]
  induction s.imports with
  | nil => simp [Item.structNamed?, struct, newStruct]
  | cons path paths ih => exact ih

/-- **Adding a field** pushes it on the schema, or the request is refused. -/
theorem addFieldTo_cases {s : Schema} {r : FieldRequest} (hr : isIdentifier r.name = true)
    (resolve : TypePath → Option TypePath) :
    (∃ v : ValueType, valueType? resolve r = some v ∧ v.WellFormed ∧
      (∀ p ∈ foreignModules? resolve s.modules r, ∀ w ∈ p, isUseName w = true) ∧
      r.name ∉ s.fieldNames ∧ addFieldTo s.unit s.name r resolve =
        .ok (s.push ⟨r.name, v⟩ (foreignModules? resolve s.modules r)).unit) ∨
    ∃ e, Refuses s resolve r e ∧ addFieldTo s.unit s.name r resolve = .error e := by
  have hfields : s.struct.fields = .named (Schema.commonFields ++ s.fields.map SchemaField.field) := rfl
  have hany := s.any_fieldName r.name
  simp only [addFieldTo, s.structNamed_unit, Except.mapError, bind, Except.bind, hfields, hany, s.moduleItems_unit, s.findSome_members]
  by_cases hdup : r.name ∈ s.fieldNames
  · refine .inr ⟨.failure (.duplicateField s.name r.name), .inl rfl, ?_⟩
    simp [hdup]
    rfl
  · cases htype : fieldType resolve s.modules r with
    | error e =>
      refine .inr ⟨e, .inr htype, ?_⟩
      simp [hdup]
    | ok found =>
      obtain ⟨t, needed⟩ := found
      obtain ⟨v, hv, hwell, rfl, rfl, huse⟩ := fieldType_ok htype
      refine .inl ⟨v, hv, hwell, huse, hdup, ?_⟩
      generalize foreignModules? resolve s.modules r = path
      have hitems : modifyModule
          (editItems s.name (publicField r.name v.ty) (path.map importOf)) s.modules s.unit.items =
            (s.push ⟨r.name, v⟩ path).unit.items := by
        have hedit := s.editItems_members ⟨r.name, v⟩ path
        have henclose := Schema.modifyModule_enclose
          (editItems s.name (publicField r.name v.ty) (path.map importOf)) s.modules s.members
        rw [show s.unit.items = enclose s.modules s.members from rfl, henclose]
        exact congrArg (enclose s.modules) hedit
      simp [hdup, hr, hitems]
      rfl

/-- The name of a field that is added can stand in a unit. -/
theorem isIdentifier_of_addFieldTo {s : Schema} {r : FieldRequest} {edited : SourceUnit}
    {resolve : TypePath → Option TypePath} (h : addFieldTo s.unit s.name r resolve = .ok edited) :
    isIdentifier r.name = true := by
  by_contra hr
  have hfields : s.struct.fields = .named (Schema.commonFields ++ s.fields.map SchemaField.field) := rfl
  simp only [addFieldTo, s.structNamed_unit, Except.mapError, bind, Except.bind, hfields,
    s.any_fieldName r.name, s.moduleItems_unit, s.findSome_members] at h
  rw [Bool.not_eq_true] at hr
  by_cases hdup : r.name ∈ s.fieldNames
  · simp [hdup] at h
  · cases htype : fieldType resolve s.modules r <;> simp [hdup, hr, htype] at h

theorem addField_eq {source typeName : String} {unit : SourceUnit} {r : FieldRequest}
    {resolve : TypePath → Option TypePath} (hread : SourceUnit.read source = .ok unit) :
    addField source typeName r resolve = (addFieldTo unit typeName r resolve).bind fun edited =>
      if areFinished edited.items then .ok edited.text else .error .aborted := by
  simp only [addField, SourceUnit.readFor, hread]
  rfl

/-- **Adding a field** to the text of a schema gives the text of the schema with that field, and with
an import of the modules that it refers to if they are others, or the request is refused. -/
theorem addField_pushes {s : Schema} (h : s.WellFormed) {r : FieldRequest}
    (hr : isItemName r.name = true) (resolve : TypePath → Option TypePath) :
    (∃ v : ValueType, valueType? resolve r = some v ∧
      (s.push ⟨r.name, v⟩ (foreignModules? resolve s.modules r)).WellFormed ∧ r.name ∉ s.fieldNames ∧
      addField s.text s.name r resolve =
        .ok (s.push ⟨r.name, v⟩ (foreignModules? resolve s.modules r)).text) ∨
    ∃ e, Refuses s resolve r e ∧ addField s.text s.name r resolve = .error e := by
  obtain ⟨s', hs, hread⟩ := Schema.read_text h
  have hname : s'.name = s.name := Schema.name_congr hs
  have hmodules : s'.modules = s.modules := Schema.modules_congr hs
  have hnames : s'.fieldNames = s.fieldNames := Schema.fieldNames_congr hs
  have haddField : addField s.text s.name r resolve =
      (addFieldTo s'.unit s'.name r resolve).bind fun edited =>
        if areFinished edited.items then .ok edited.text else .error .aborted := by
    rw [addField_eq hread, hname]
  rw [haddField]
  obtain ⟨v, hv, hwell, huse, hnew, hok⟩ | ⟨e, he, herror⟩ :=
    addFieldTo_cases (s := s') (isIdentifier_of_isItemName hr) resolve
  · rw [hmodules] at huse hok
    refine .inl ⟨v, hv, h.push ⟨hr, hwell⟩ huse, hnames ▸ hnew, ?_⟩
    generalize foreignModules? resolve s.modules r = path at hok
    have hfinished := (s'.push ⟨r.name, v⟩ path).isFinished_unit
    have htext : (s'.push ⟨r.name, v⟩ path).unit.text = (s.push ⟨r.name, v⟩ path).text :=
      Schema.text_congr (Schema.push_congr hs _ _)
    rw [hok]
    simp only [Except.bind, hfinished, ↓reduceIte, htext]
  · refine .inr ⟨e, he.congr hs, ?_⟩
    rw [herror]
    rfl

/-- The text of a schema with one more field is that of some schema with that field. -/
theorem addField_cases {s : Schema} (h : s.WellFormed) {r : FieldRequest}
    (hr : isItemName r.name = true) (resolve : TypePath → Option TypePath) :
    (∃ (v : ValueType) (path : Option (List String)), valueType? resolve r = some v ∧
      (s.push ⟨r.name, v⟩ path).WellFormed ∧ r.name ∉ s.fieldNames ∧
      addField s.text s.name r resolve = .ok (s.push ⟨r.name, v⟩ path).text) ∨
    ∃ e, Refuses s resolve r e ∧ addField s.text s.name r resolve = .error e :=
  (addField_pushes h hr resolve).imp_left fun ⟨v, h⟩ => ⟨v, _, h⟩

end TypeFoundry.Synthesis
