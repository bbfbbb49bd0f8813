import TypeFoundry.Proofs.Amending

/-!
# Imports follow references

A type imports everything in the modules of the types that it refers to, but for its own modules. After
any requests for fields, the innermost module of the unit holds these imports, each once and in the
order in which successful requests first needed them, and behind them the one struct (`evolve_imports`).
Fields of built-in types, references into the own modules and failed requests import nothing.
-/

set_option autoImplicit false

namespace TypeFoundry.Synthesis

open Source

/-- The modules of the types that the requests refer to, without the given ones, each once. -/
def foreignModules (resolve : TypePath → Option TypePath) (modules : List String)
    (rs : List FieldRequest) : List (List String) :=
  ((((rs.filter (·.kind = .reference)).filterMap (referred? resolve)).map (·.modules)).filter
    (· ≠ modules)).eraseDups

theorem foreignModules_eq (resolve : TypePath → Option TypePath) (modules : List String)
    (rs : List FieldRequest) :
    foreignModules resolve modules rs = (rs.filterMap (foreignModules? resolve modules)).eraseDups := by
  rw [foreignModules]
  congr 1
  induction rs with
  | nil => rfl
  | cons r rs ih =>
    rw [List.filterMap_cons, ← ih]
    cases hname : primitiveName? r.kind with
    | some name =>
      have hkind : r.kind ≠ .reference := by
        intro hkind
        rw [hkind] at hname
        cases hname
      rw [foreignModules?, hname, List.filter_cons_of_neg (by simpa using hkind)]
    | none =>
      have hkind := primitiveName_eq_none.1 hname
      have hforeign : foreignModules? resolve modules r = (referred? resolve r).bind fun p =>
          if p.modules = modules then none else some p.modules := by
        rw [foreignModules?, hname]
        rfl
      rw [hforeign, List.filter_cons_of_pos (by simpa using hkind), List.filterMap_cons]
      cases referred? resolve r with
      | none => rfl
      | some p => by_cases hp : p.modules = modules <;> simp [hp]

/-- Imports that come one after the other are those that occur, in the order in which they first do. -/
theorem foldl_withImport {β : Type} (f : β → Option (List String)) (bs : List β) :
    bs.foldl (fun paths b => Schema.withImport (f b) paths) [] = (bs.filterMap f).eraseDups := by
  induction bs using List.reverseRecOn with
  | nil => rfl
  | append_singleton bs b ih =>
    rw [List.foldl_append, ih, List.filterMap_append]
    cases hb : f b with
    | none => simp [hb, Schema.withImport]
    | some path =>
      simp only [List.filterMap_cons, hb, List.filterMap_nil, eraseDups_concat, List.foldl_cons,
        List.foldl_nil, Schema.withImport, List.mem_eraseDups]

/-- **Imports follow references.** After any requests on the text of a new type, the unit consists of its
modules, one inside the other, and the innermost of them has the imports of the modules that the
successful requests refer to, if they are others than those of the type, and behind them the struct. -/
theorem evolve_imports {name : String} {modules : List String} {rs : List FieldRequest}
    (hname : IsPlain name) (hmodules : ∀ m ∈ modules, IsPlain m) (hrs : ∀ r ∈ rs, IsPlain r.name)
    (resolve : TypePath → Option TypePath) :
    ∃ text unit s, newType name modules = .ok text ∧
      SourceUnit.read (evolve name resolve text rs).1 = .ok unit ∧ s.name = name ∧
      unit.items = enclose modules
        ((foreignModules resolve modules (evolve name resolve text rs).2).map
          (fun path => .use (importOf path)) ++ [.struct s]) := by
  have hmodules' := fun m hm => (hmodules m hm).isModuleName
  have hnew := Schema.WellFormed.new hname.isItemName hmodules'
  obtain ⟨s, hs, hpath, htext, himports, -⟩ :=
    evolve_pushes hnew resolve fun r hr => (hrs r hr).isItemName
  rw [show (Schema.new name modules).name = name from rfl] at htext himports
  rw [show (Schema.new name modules).imports = [] from rfl, foldl_withImport,
    show (Schema.new name modules).modules = modules from rfl, ← foreignModules_eq] at himports
  obtain ⟨s', hplain, hread⟩ := Schema.read_text hs
  have hsname : s'.name = name :=
    (Schema.name_congr hplain).trans (congrArg TypePath.name hpath)
  have hsmodules : s'.modules = modules :=
    (Schema.modules_congr hplain).trans (congrArg TypePath.modules hpath)
  rw [← htext] at hread
  refine ⟨_, s'.unit, s'.struct, newType_eq hname.isItemName hmodules', hread, hsname, ?_⟩
  rw [← himports, ← Schema.imports_congr hplain, ← hsmodules]
  rfl

/-- A type that refers twice to one namespace and once each to the root and to its own. -/
theorem evolve_imports_node :
    let rs : List FieldRequest := [⟨"left", .reference, some "shared::Leaf"⟩, ⟨"size", .int, none⟩,
      ⟨"root", .reference, some "Root"⟩, ⟨"next", .reference, some "graph::Node"⟩,
      ⟨"right", .reference, some "shared::Leaf"⟩]
    foreignModules some ["graph"] rs = [["shared"], []] ∧
    ∃ text unit s, newType "Node" ["graph"] = .ok text ∧
      SourceUnit.read (evolve "Node" some text rs).1 = .ok unit ∧ s.name = "Node" ∧
      unit.items = enclose ["graph"]
        ((foreignModules some ["graph"] (evolve "Node" some text rs).2).map
          (fun path => .use (importOf path)) ++ [.struct s]) := by
  have hplain : ∀ w ∈ ["Node", "graph", "left", "size", "root", "next", "right"], IsPlain w := by
    intro w hw
    refine ⟨?_, ?_⟩ <;> revert w <;> decide +kernel
  intro rs
  have hrs : ∀ r ∈ rs, IsPlain r.name := fun r hr =>
    hplain r.name (List.mem_cons_of_mem _ (List.mem_cons_of_mem _ (List.mem_map_of_mem hr)))
  exact ⟨by decide +kernel,
    evolve_imports (hplain "Node" (by simp)) (by simpa using hplain "graph" (by simp)) hrs some⟩

end TypeFoundry.Synthesis
