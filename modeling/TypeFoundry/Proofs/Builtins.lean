import TypeFoundry.Proofs.Confinement
import TypeFoundry.Proofs.Sessions

/-!
# Built-in types keep their meaning

The types of fields name built-in types as they are spelled (`uses_newStruct`, `uses_fieldType`). A
name means the built-in type unless its module defines a type of that name (`not_unshadowed`). If no
request makes a type of such a name, no crate that is handed over redefines one
(`serveAll_unshadowed`); but a foundry accepts such requests, so a built-in type can be shadowed
(`shadowed_string`).
-/

set_option autoImplicit false

namespace TypeFoundry

open Source Crate Synthesis Files Files.Disk

/-! ## Names in types -/

/-- The type uses the name as it is spelled: a path in it starts with the name. -/
inductive Source.Ty.Uses (name : String) : Ty → Prop where
  | head {s : Segment} {rest : List Segment} : s.name = name → Uses name (.path false (s :: rest))
  | argument {rooted isTurbo comma : Bool} {segments : List Segment} {n : String}
    {arguments : List GenericArg} {t : Ty} : .angled n isTurbo arguments comma ∈ segments →
    .type t ∈ arguments → Uses name t → Uses name (.path rooted segments)

namespace Synthesis

/-- The names of built-in types in the types of fields. -/
def builtinNames : List String := ["u128", "String", "i32", "i64", "f64", "bool", "Option", "Box"]

theorem uses_ofNames {name n : String} {names : List String}
    (h : (Ty.ofNames false (n :: names)).Uses name) : name = n := by
  cases h with
  | head h => exact h.symm
  | argument hmem _ _ => simp at hmem

theorem uses_applied {name n : String} {t : Ty} (h : (Ty.applied n t).Uses name) :
    name = n ∨ t.Uses name := by
  cases h with
  | head h => exact .inl h.symm
  | argument hmem ht h =>
    cases List.mem_singleton.1 hmem
    cases List.mem_singleton.1 ht
    exact .inr h

/-- The type of a further field uses built-in types only, and names what it refers to from the root of
the crate on. -/
theorem uses_fieldType {resolve : TypePath → Option TypePath} {current : List String}
    {r : FieldRequest} {t : Ty} {needed : Option UseDecl}
    (h : fieldType resolve current r = .ok (t, needed)) {name : String} (hname : t.Uses name) :
    name ∈ builtinNames ∨ name = "crate" := by
  have hprimitive : ∀ kind n, primitiveName? kind = some n → n ∈ builtinNames := by
    intro kind n hn
    cases kind <;> simp [primitiveName?] at hn <;> subst hn <;> decide
  have hreference : ∀ target : TypePath, (referenceType target).Uses name →
      name ∈ builtinNames ∨ name = "crate" := by
    intro target hname
    obtain rfl | hname := uses_applied hname
    · exact .inl (by decide)
    · obtain rfl | hname := uses_applied hname
      · exact .inl (by decide)
      · exact .inr (uses_ofNames hname)
  unfold fieldType at h
  split at h
  · rename_i n hn
    obtain ⟨rfl, -⟩ := Prod.mk.inj (Except.ok.inj h)
    exact .inl (uses_ofNames hname ▸ hprimitive _ n hn)
  · dsimp only at h
    repeat' split at h
    all_goals first
      | cases h; done
      | (obtain ⟨rfl, -⟩ := Prod.mk.inj (Except.ok.inj h); exact hreference _ hname)

/-- So do the types of the fields that every type has. -/
theorem uses_newStruct {typeName : String} {f : Field} (hf : f ∈ (newStruct typeName).namedFields)
    {name : String} (hname : f.type.Uses name) : name ∈ builtinNames := by
  simp only [StructDecl.namedFields, newStruct, List.mem_cons, List.not_mem_nil, or_false] at hf
  obtain rfl | rfl := hf
  · exact uses_ofNames hname ▸ by decide
  · exact uses_ofNames hname ▸ by decide

end Synthesis

/-- No module of the crate defines a type of a built-in name that the type of a field in it uses. -/
def Crate.Unshadowed (crate : SourceUnit) : Prop :=
  ∀ path, ∀ body ∈ bodiesAt path crate.items, ∀ s, Item.struct s ∈ body → ∀ f ∈ s.namedFields,
    ∀ name ∈ builtinNames, f.type.Uses name → ∀ i ∈ body, typeName? i ≠ some name

theorem Crate.unshadowed_of_within {targets references : List SourceUnit}
    (h : ∀ u ∈ references ++ targets, u.Within fun path _ => path.name ∉ builtinNames) :
    Unshadowed (Compiler.crateOf targets references) := by
  intro path body hbody s _ f _ name hname _ i hi htype
  obtain ⟨u, hu, isStruct, -, hdefines⟩ := defines_of_mem_typesOf (mem_types_crateOf hbody hi htype)
  exact h u hu _ isStruct hdefines hname

/-- The module of a schema has the struct of the schema. -/
theorem Synthesis.Schema.typesOf_unit (s : Schema) : typesOf s.path [s.unit] = [.struct s.struct] := by
  have hmembers : s.members.filter (fun i => typeName? i = some s.name) = [.struct s.struct] := by
    simp [Schema.members, typeName?, Schema.struct, newStruct]
  have henclose : ∀ modules, leavesAt modules (enclose modules s.members) = leavesAt [] s.members := by
    intro modules
    induction modules with
    | nil => rfl
    | cons m modules ih => simpa [enclose_cons, publicModule, leavesAt_module] using ih
  rw [typesOf, leavesOf, List.flatMap_singleton, Schema.path,
    show s.unit.items = enclose s.modules s.members from rfl, henclose, leavesAt, bodiesAt,
    List.flatMap_singleton, List.filter_filter]
  rw [← hmembers]
  refine List.filter_congr fun i _ => ?_
  cases h : typeName? i with
  | none => simp
  | some name => simp [isLeaf_of_typeName? h]

/-- A struct is shadowed if a unit defines, in the same module, a type that the struct means as a
built-in one. -/
theorem Crate.not_unshadowed {target u : SourceUnit} {references : List SourceUnit}
    {modules : List String} {s : StructDecl} {f : Field} {name : String} {isStruct : Bool}
    (hs : (typesOf ⟨modules, s.name⟩ [target]).getLast? = some (.struct s)) (hf : f ∈ s.namedFields)
    (hname : name ∈ builtinNames) (huses : f.type.Uses name) (hu : u ∈ references ++ [target])
    (hdefines : u.Defines ⟨modules, name⟩ isStruct) :
    ¬ Unshadowed (Compiler.crateOf [target] references) := by
  intro hclean
  obtain ⟨i, hi, -⟩ := hdefines.mem_typesOf hu
  obtain ⟨body, hbody, htypes⟩ := types_crateOf (List.ne_nil_of_mem hi)
  have hne := List.ne_nil_of_mem (List.mem_of_getLast? hs)
  rw [List.getLast?_eq_some_getLast hne, Option.some.injEq] at hs
  have hall : typesOf ⟨modules, s.name⟩ (references ++ [target]) ≠ [] := by
    rw [typesOf_append]
    exact List.append_ne_nil_of_right_ne_nil _ hne
  obtain ⟨body', hbody', htypes'⟩ := types_crateOf hall
  simp only [typesOf_append, List.getLast_append_right hne, hs] at htypes'
  -- both types are in the one module of the crate at that path
  obtain rfl : body' = body := List.singleton_inj.1 (hbody'.symm.trans hbody)
  have hstruct := List.mem_filter.1 (htypes' ▸ List.mem_singleton_self _)
  have hcapture := List.mem_filter.1 (htypes ▸ List.mem_singleton_self _)
  exact hclean modules body' (hbody ▸ List.mem_singleton_self _) s hstruct.1 f hf name hname huses _
    hcapture.1 (of_decide_eq_true hcapture.2)

/-! ## Runs that make no type of a built-in name -/

/-- Every unit of the store is the text of a schema. -/
def Store.AllSchemas (s : Store) (w : World) : Prop :=
  ∀ name text, s.unit? w name = some (.text text) → ∃ schema, IsSchemaText name text schema

/-- The request makes no type of a built-in name. -/
def Request.Spares : Request → Prop
  | .create r => r.name ∉ builtinNames
  | .extend _ _ => True

/-- All units are texts of schemas of other names than those of built-in types. -/
structure Spared (f : Foundry) (w : World) : Prop where
  confined : Confined (fun path _ => path.name ∉ builtinNames) f w
  schemas : f.store.AllSchemas w

namespace Spared

variable {f : Foundry} {w : World} {q : Request}

/-- What a request prepares is the text of a schema, of no built-in name. -/
theorem prepares (h : Spared f w) (hq : q.IsPlain) (hspares : q.Spares) {name source : String}
    {path : TypePath} (hprepares : q.Prepares f w name source path) :
    (∃ schema, IsSchemaText name source schema) ∧ name ∉ builtinNames := by
  cases hprepares with
  | create hcheck hnew => exact ⟨⟨_, isSchemaText_of_newType hnew⟩, hspares⟩
  | @extend _ old _ _ _ hname hcheck hread hpath hadd =>
    have hunit := read_eq hread
    rw [place_path hq.1.isIdentifier] at hunit
    obtain ⟨schema, hschema⟩ := h.schemas name old hunit
    obtain ⟨v, imported, -, hschema'⟩ := hschema.addField hq.2.isItemName hadd
    refine ⟨⟨_, hschema'⟩, ?_⟩
    obtain ⟨hwell, hn, rfl⟩ := hschema
    obtain ⟨read, -, hold⟩ := Schema.read_text hwell
    have hdefines := (IsSchemaText.defines ⟨hwell, hn, rfl⟩ hold schema.path true).2 ⟨rfl, rfl⟩
    rw [← hn]
    exact h.confined.stored name schema.text _ hunit hold schema.path true hdefines

theorem within (h : Spared f w) (hq : q.IsPlain) (hspares : q.Spares) :
    q.PreparesWithin (fun path _ => path.name ∉ builtinNames) f w := by
  intro name source path u hprepares hread path' isStruct hdefines
  obtain ⟨⟨schema, hschema⟩, hname⟩ := h.prepares hq hspares hprepares
  obtain ⟨rfl, -⟩ := (hschema.defines hread path' isStruct).1 hdefines
  obtain ⟨-, hn, -⟩ := hschema
  rw [Schema.path, hn]
  exact hname

/-- **A request that spares built-in names** leaves all units sparing them. -/
theorem serve {r : Except Halt Answer} {s : Foundry × World} (h : Spared f w) (hq : q.IsPlain)
    (hspares : q.Spares) (hfresh : f.store.NotNamedFor w (w.ids w.drawn))
    (hrun : q.serve (f, w) = (r, s)) : Spared s.1 s.2 := by
  refine ⟨h.confined.serve hfresh hrun fun _ _ => h.within hq hspares, ?_⟩
  cases r with
  | error e =>
    obtain ⟨hf, hhalt⟩ := Request.serve_error hrun
    intro name text hunit
    rw [hf, hhalt.units hfresh] at hunit
    exact h.schemas name text hunit
  | ok a =>
    obtain ⟨name, source, hprepares, hestablished⟩ := Request.serve_ok hrun
    have hname := isIdentifier_of_isItemName hprepares.isItemName
    obtain ⟨p, handle, -, -, hs⟩ := hestablished.admitted
    intro unit text hunit
    rw [hs, hestablished.unit?_eq hname hfresh] at hunit
    split at hunit
    · rename_i he
      obtain rfl := Content.text.inj (Option.some.inj hunit)
      exact he ▸ (h.prepares hq hspares hprepares).1
    · exact h.schemas unit text hunit

/-- The crate that a request hands over shadows nothing. -/
theorem handed {r : Except Halt Answer} {s : Foundry × World} (h : Spared f w) (hq : q.IsPlain)
    (hspares : q.Spares) (hrun : q.serve (f, w) = (r, s)) :
    ∃ new, s.2.invocations = w.invocations ++ new ∧ ∀ i ∈ new, ∃ unit references,
      i.text = (Compiler.crateOf [unit] references).text ∧
      Unshadowed (Compiler.crateOf [unit] references) := by
  obtain hnone | ⟨name, source, path, hprepares, i, unit, hread, htext, hinvocations⟩ :=
    Request.serve_hands hrun
  · exact ⟨[], by simpa using hnone, by simp⟩
  · refine ⟨[i], hinvocations, ?_⟩
    simp only [List.mem_singleton, forall_eq]
    refine ⟨unit, _, htext, unshadowed_of_within fun u hu => ?_⟩
    obtain hu | hu := List.mem_append.1 hu
    · exact h.confined.loaded u hu
    · obtain rfl := List.mem_singleton.1 hu
      exact h.within hq hspares name source path u hprepares hread

/-- So do the crates of a whole run. -/
theorem serveAll {f' : Foundry} {w' : World} {qs : List Request} {rs : List (Except Halt Answer)}
    (h : Spared f w) (hqs : ∀ q ∈ qs, q.IsPlain) (hspares : ∀ q ∈ qs, q.Spares)
    (hfresh : ∀ k, f.store.NotNamedFor w (w.ids k))
    (hrun : Request.serveAll qs (f, w) = (rs, f', w')) :
    ∃ new, w'.invocations = w.invocations ++ new ∧ ∀ i ∈ new, ∃ unit references,
      i.text = (Compiler.crateOf [unit] references).text ∧
      Unshadowed (Compiler.crateOf [unit] references) := by
  induction qs generalizing f w rs with
  | nil =>
    obtain ⟨-, rfl, rfl⟩ : [] = rs ∧ f = f' ∧ w = w' := by simpa [Request.serveAll] using hrun
    exact ⟨[], by simp, by simp⟩
  | cons q qs ih =>
    obtain ⟨hq, hqs⟩ := List.forall_mem_cons.1 hqs
    obtain ⟨hspare, hspares⟩ := List.forall_mem_cons.1 hspares
    cases hserve : q.serve (f, w) with
    | mk r s =>
      obtain ⟨f₁, w₁⟩ := s
      cases hrest : Request.serveAll qs (f₁, w₁) with
      | mk rest s₂ =>
        rw [Request.serveAll, hserve] at hrun
        dsimp only at hrun
        rw [hrest] at hrun
        obtain ⟨-, rfl⟩ := Prod.mk.inj hrun
        have hleads := Request.serve_leads hserve
        have hstore := Request.serve_store hserve
        have hfresh₁ : ∀ k, f₁.store.NotNamedFor w₁ (w₁.ids k) := by
          rw [hstore]
          exact Store.NotNamedFor.of_leads hfresh hleads
        obtain ⟨first, hfirst, hclean⟩ := h.handed hq hspare hserve
        obtain ⟨later, hlater, hclean'⟩ :=
          ih (h.serve hq hspare (hfresh _) hserve) hqs hspares hfresh₁ hrest
        refine ⟨first ++ later, by rw [hlater, hfirst, List.append_assoc], ?_⟩
        exact List.forall_mem_append.2 ⟨hclean, hclean'⟩

end Spared

/-! ## Opening over an empty directory -/

/-- A directory in which nothing stands has no units. -/
theorem Store.unit?_of_names {s : Store} {w : World} (h : w.disk.names (place w.cwd s.root) = [])
    (name : String) : s.unit? w name = none := by
  cases hunit : s.unit? w name with
  | none => rfl
  | some content =>
    rw [Store.unit?, file?_eq_some, entry?, if_neg (by simp)] at hunit
    obtain ⟨e, he, -⟩ := Option.map_eq_some_iff.1 hunit
    have hloc : e.1 = place w.cwd s.root ++ [name ++ Store.ending] := by
      simpa using List.find?_some he
    have hname : name ++ Store.ending ∈ w.disk.names (place w.cwd s.root) :=
      List.mem_filterMap.2 ⟨e, List.mem_of_find?_eq_some he, by simp [nameIn?, hloc]⟩
    rw [h] at hname
    cases hname

theorem unitsIn_empty {dir : String} {w : World} (h : w.disk.names (place w.cwd dir) = []) :
    Ends (Store.unitsIn dir) w (fun units _ => units = []) fun _ _ => True := by
  refine (Action.look_ends _).bind ?_ fun _ _ _ => trivial
  rintro r _ ⟨hr, n, rfl⟩
  cases r with
  | ok files =>
    have hfiles : files = [] := by
      have hlist := hr files rfl
      unfold Disk.list at hlist
      cases hloc : w.disk.locationOf w.cwd dir with
      | error cause => rw [hloc] at hlist; cases hlist
      | ok loc =>
        rw [hloc] at hlist
        simp only [bind, Except.bind] at hlist
        rw [locationOf_eq_place hloc, h] at hlist
        split at hlist
        · rw [← Except.ok.inj hlist, List.mergeSort_nil]
        · cases hlist
        · cases hlist
    subst hfiles
    exact ⟨List.mergeSort_nil⟩
  | error cause =>
    dsimp only
    split
    · exact ends_pure rfl
    · exact ends_throw trivial

/-- If there are no other directories, no units are compiled at the start. -/
theorem Foundry.not_preloads {s : Settings} {w : World} {units : List String}
    (hstatic : s.staticDirs = []) (h : w.disk.names (place w.cwd s.sourceDir) = []) :
    ¬ Preloads s w units := by
  intro hunits
  obtain ⟨w', hrun⟩ := hunits.run_eq
  have hends : Ends (storedUnits (s.sourceDir :: s.staticDirs)) w (fun units _ => units = [])
      fun _ _ => True := by
    rw [hstatic]
    refine (unitsIn_empty h).bind ?_ fun _ _ _ => trivial
    rintro _ w₁ rfl
    exact ⟨rfl⟩
  exact hunits.nonempty (hends.of_ok hrun)

theorem Foundry.start_spared {s : Settings} {f : Foundry} {w₀ w : World}
    (hrun : (start s).run w₀ = (.ok f, w)) (hstatic : s.staticDirs = [])
    (hempty : w₀.disk.names (place w₀.cwd s.sourceDir) = [])
    (hfresh : Store.NotNamedFor ⟨s.sourceDir⟩ w₀ (w₀.ids w₀.drawn)) : Spared f w := by
  have hnone : ∀ name, Store.unit? ⟨s.sourceDir⟩ w₀ name = none := Store.unit?_of_names hempty
  refine ⟨start_confined hrun hfresh (fun units h => (not_preloads hstatic hempty h).elim) ?_, ?_⟩
  · intro name text u hunit
    rw [hnone] at hunit
    cases hunit
  · intro name text hunit
    rw [start_unit? hrun hfresh, hnone] at hunit
    cases hunit

/-- **Built-in types keep their meaning** in every crate that is handed over, if the directory of the
units was empty, there are no others, and no request makes a type of a built-in name. -/
theorem serveAll_unshadowed {settings : Settings} {f f' : Foundry} {w₀ w w' : World}
    {qs : List Request} {rs : List (Except Halt Answer)}
    (hopen : (Foundry.start settings).run w₀ = (.ok f, w)) (hstatic : settings.staticDirs = [])
    (hempty : w₀.disk.names (place w₀.cwd settings.sourceDir) = [])
    (hfresh : ∀ k, Store.NotNamedFor ⟨settings.sourceDir⟩ w₀ (w₀.ids k))
    (hqs : ∀ q ∈ qs, q.IsPlain) (hspares : ∀ q ∈ qs, q.Spares)
    (hrun : Request.serveAll qs (f, w) = (rs, f', w')) :
    ∃ new, w'.invocations = w.invocations ++ new ∧ ∀ i ∈ new, ∃ unit references,
      i.text = (Compiler.crateOf [unit] references).text ∧
      Unshadowed (Compiler.crateOf [unit] references) := by
  obtain ⟨hstore, -, -, hleads, -⟩ := (Foundry.start_ends settings).of_ok hopen
  have hfresh' : ∀ k, f.store.NotNamedFor w (w.ids k) := by
    rw [hstore]
    exact Store.NotNamedFor.of_leads hfresh hleads
  exact (Foundry.start_spared hopen hstatic hempty (hfresh _)).serveAll hqs hspares hfresh' hrun

/-- The crate of a type that is made in an empty directory shadows nothing. -/
theorem serveAll_unshadowed_new : ∃ f w i, ∃ unit references,
    Request.serveAll [.create ⟨"T"⟩] (.fresh, .fresh) =
      ([.ok (.created ⟨⟨["m"], "T"⟩, "units/T.rs"⟩)], f, w) ∧ w.invocations = [i] ∧
    i.text = (Compiler.crateOf [unit] references).text ∧
    Unshadowed (Compiler.crateOf [unit] references) := by
  obtain ⟨⟨f, w⟩, hserve⟩ := Foundry.serve_fresh
  have hrun : Request.serveAll [.create ⟨"T"⟩] (.fresh, .fresh) =
      ([.ok (.created ⟨⟨["m"], "T"⟩, "units/T.rs"⟩)], f, w) := by
    rw [Request.serveAll, hserve]
    rfl
  have hqs : ∀ q ∈ [Request.create ⟨"T"⟩], q.IsPlain ∧ q.Spares := by
    simp only [List.mem_singleton, forall_eq]
    exact ⟨Foundry.isPlain_fresh "T" (by simp), by simp [Request.Spares, builtinNames]⟩
  obtain ⟨new, hnew, hclean⟩ := serveAll_unshadowed Foundry.start_fresh rfl rfl
    Foundry.notNamedFor_fresh (fun q hq => (hqs q hq).1) (fun q hq => (hqs q hq).2) hrun
  -- the request handed a crate over
  obtain ⟨-, -, -, -, i, -, -, -, hinvocations⟩ := Request.serve_ok_hands hserve
  obtain rfl := List.append_cancel_left (hnew.symm.trans hinvocations)
  obtain ⟨unit, references, htext, hunshadowed⟩ := hclean i (List.mem_singleton_self i)
  exact ⟨f, w, i, unit, references, hrun, hinvocations, htext, hunshadowed⟩

/-! ## A type of a built-in name -/

/-- The descriptor of a module with the type `String` of the module `m`. -/
def stringDescriptor : String :=
  "type\tm::String\t48\t16\nfield\tm::String\tid\tu128\t0\nfield\tm::String\tname\tString\t16\n"

/-- A world without files in which nothing was done yet. Its toolchain accepts all crates, and answers
with the module of that type. -/
def World.stringly : World :=
  { World.fresh with
    toolchain := ⟨fun _ => none,
      fun _ _ => .success (.descriptor (stringDescriptor.toList.map fun c => .ofNat c.toNat))⟩ }

/-- The layout that the descriptor is of. -/
def stringLayout : TypeLayout :=
  ⟨⟨["m"], "String"⟩, 48, 16, [⟨"id", "u128", 0⟩, ⟨"name", "String", 16⟩]⟩

theorem World.stringly_faithful : World.stringly.FaithfulAt .fresh (.create ⟨"String"⟩) := by
  rintro name source path (⟨-, hnew⟩ | -)
  obtain ⟨hwell, -, rfl⟩ := isSchemaText_of_newType hnew
  obtain ⟨schema, hschema, hread⟩ := Schema.read_text hwell
  rw [Compiler.filterMap_read? hread, List.filterMap_nil]
  rintro i loaded - hreply
  obtain rfl := Reply.success.inj hreply
  have hlaidOut : schema.described.LaidOut stringLayout := by
    refine ⟨?_, ?_, by decide, by decide, ?_, by decide⟩
    · rw [Schema.described, Schema.path, Schema.modules_congr hschema, Schema.name_congr hschema]
      rfl
    · rw [schema.described_names, Schema.fieldNames_congr hschema]
      rfl
    · simp [stringLayout, IsColumn]
  rw [schema.described_unit]
  refine .intro (List.Perm.refl _) (.cons hlaidOut .nil) ?_
  decide +kernel

/-- A foundry makes a type with the name of the built-in strings, in the module of whose display name
the crate then has that type for the built-in one. -/
theorem shadowed_string :
    (Foundry.start Foundry.freshSettings).run World.stringly = (.ok .fresh, .stringly) ∧
    (Request.create ⟨"String"⟩).IsPlain ∧
    World.stringly.FaithfulAt .fresh (.create ⟨"String"⟩) ∧
    ∃ s i, ∃ unit references, (Request.create ⟨"String"⟩).serve (.fresh, .stringly) =
      (.ok (.created ⟨⟨["m"], "String"⟩, "units/String.rs"⟩), s) ∧
      s.2.invocations = [i] ∧ i.text = (Compiler.crateOf [unit] references).text ∧
      ¬ Unshadowed (Compiler.crateOf [unit] references) := by
  have hstart : (Foundry.start Foundry.freshSettings).run World.stringly =
      (.ok .fresh, .stringly) := by
    have hcheck : Foundry.freshSettings.check = .ok () := by decide +kernel
    unfold Foundry.start
    rw [hcheck, Foundry.segments_fresh]
    rfl
  have hplain : (Request.create ⟨"String"⟩).IsPlain := by
    refine ⟨?_, ?_⟩ <;> decide +kernel
  obtain ⟨s, hserve⟩ : ∃ s, (Request.create ⟨"String"⟩).serve (.fresh, .stringly) =
      (.ok (.created ⟨⟨["m"], "String"⟩, "units/String.rs"⟩), s) := by
    have hmodules : ∀ m ∈ ["m"], isModuleName m = true := by
      simpa using (Foundry.isPlain_fresh "m" (by simp)).isModuleName
    have hnew := newType_eq hplain.isItemName hmodules
    have hread := Schema.read_new hplain.isItemName hmodules
    have hcheck : TypeRequest.check ⟨"String"⟩ = .ok () := by decide +kernel
    have hmissing : World.stringly.disk.isFile World.stringly.cwd (Foundry.fresh.store.path "String") =
        false := by decide +kernel
    have hestablished : ((Foundry.establish "String" (Schema.new "String" ["m"]).text
        ⟨["m"], "String"⟩).run (.fresh, .stringly)).1 = .ok "units/String.rs" := by
      simp only [Foundry.establish, Compiler.compile, Compiler.build, mapM_readTarget_of_read hread]
      decide +kernel
    obtain ⟨⟨_, s⟩, hrun⟩ : ∃ established, (Foundry.establish "String" (Schema.new "String" ["m"]).text
        ⟨["m"], "String"⟩).run (.fresh, .stringly) = established := ⟨_, rfl⟩
    rw [hrun] at hestablished
    obtain rfl := hestablished
    exact ⟨s, Request.serve_create hcheck hmissing hnew hrun⟩
  refine ⟨hstart, hplain, World.stringly_faithful, s, ?_⟩
  obtain ⟨_, _, _, ⟨-, hnew⟩ | -, i, unit, hread, htext, hinvocations⟩ :=
    Request.serve_ok_hands hserve
  refine ⟨i, unit, _, hserve, hinvocations, htext, ?_⟩
  -- the unit defines the type that its own display name is of
  obtain ⟨hwell, -, rfl⟩ := isSchemaText_of_newType hnew
  obtain ⟨schema, hschema, hread'⟩ := Schema.read_text hwell
  obtain rfl := Except.ok.inj (hread'.symm.trans hread)
  have hname : schema.name = "String" := Schema.name_congr hschema
  have hdefines : schema.unit.Defines ⟨schema.modules, "String"⟩ true := by
    rw [schema.defines_unit, Schema.path, hname]
    exact ⟨rfl, rfl⟩
  have hlast : (typesOf schema.path [schema.unit]).getLast? = some (.struct schema.struct) := by
    rw [schema.typesOf_unit]
    rfl
  have hfield : Schema.displayName ∈ schema.struct.namedFields := by
    simp [Schema.struct, Schema.commonFields, StructDecl.namedFields]
  exact not_unshadowed hlast hfield (by decide) (.head rfl) (by simp) hdefines

end TypeFoundry
