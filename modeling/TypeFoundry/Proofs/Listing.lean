import TypeFoundry.Proofs.Describing

/-!
# Modules that list their types

A module lists structs if its descriptor is printed for them, whatever numbers and whatever names of
types it gives (`Loaded.Lists`). A number that is too large, or a name that looks like more than one
column, makes the descriptor unreadable at most: if it can be read, it is of the types that were listed
(`layoutsOf_lists`). This is less than a faithful description says, which tells the fields too.
-/

set_option autoImplicit false

namespace TypeFoundry

open Source Crate Text

namespace Descriptor

/-! ## Lines -/

/-- A row that ends in a number is a line of its own. -/
theorem isLine_of_number {ss : List String} (hfeed : ∀ s ∈ ss, '\n' ∉ s.toList)
    (hnumber : ∃ (init : List String) (n : Nat), ss = init ++ [toString n]) :
    IsLine ("\t".intercalate ss) ∧ "\t".intercalate ss ≠ "" := by
  obtain ⟨init, n, rfl⟩ := hnumber
  have hne := toList_toString_ne_nil n
  obtain ⟨c, hc⟩ := Option.isSome_iff_exists.1 (List.getLast?_isSome.2 hne)
  have hdigit := isDigit_of_mem_toString (List.mem_of_getLast? hc)
  have hlast : ("\t".intercalate (init ++ [toString n])).toList.getLast? = some c := by
    rw [getLast?_intercalate hne, hc]
  refine ⟨⟨not_mem_intercalate (by decide) hfeed, ?_⟩, ?_⟩
  · rw [hlast]
    rintro ⟨⟩
    exact absurd hdigit (by decide)
  · intro he
    rw [he] at hlast
    cases hlast

/-- What is printed of a field ends no line. -/
structure Unbroken (f : FieldLayout) : Prop where
  name : '\n' ∉ f.name.toList
  typeName : '\n' ∉ f.typeName.toList

/-- What is printed of a type and its fields ends no line. -/
structure TypeUnbroken (t : TypeLayout) : Prop where
  path : t.path.IsDeclared
  fields : ∀ f ∈ t.fields, Unbroken f

theorem isLine_typeColumns {t : TypeLayout} (h : t.path.IsDeclared) :
    IsLine ("\t".intercalate (typeColumns t)) ∧ "\t".intercalate (typeColumns t) ≠ "" := by
  refine isLine_of_number ?_ ⟨[_, _, _], t.align, rfl⟩
  intro s hs
  simp only [typeColumns, List.mem_cons, List.not_mem_nil, or_false] at hs
  rcases hs with rfl | rfl | rfl | rfl
  · decide
  · exact h.isColumn.2
  · exact (isColumn_toString _).2
  · exact (isColumn_toString _).2

theorem isLine_fieldColumns {owner : TypePath} {f : FieldLayout} (howner : owner.IsDeclared)
    (h : Unbroken f) : IsLine ("\t".intercalate (fieldColumns owner f)) ∧
      "\t".intercalate (fieldColumns owner f) ≠ "" := by
  refine isLine_of_number ?_ ⟨[_, _, _, _], f.offset, rfl⟩
  intro s hs
  simp only [fieldColumns, List.mem_cons, List.not_mem_nil, or_false] at hs
  rcases hs with rfl | rfl | rfl | rfl | rfl
  · decide
  · exact howner.isColumn.2
  · exact h.name
  · exact h.typeName
  · exact (isColumn_toString _).2

/-- The lines of a text are those that were printed, whatever they say. -/
theorem lines_unbroken {ts : List TypeLayout} (h : ∀ t ∈ ts, TypeUnbroken t) :
    (Text.lines (render ts)).filter (· ≠ "") = (ts.flatMap columnsOf).map ("\t".intercalate ·) := by
  have hline : ∀ ss ∈ ts.flatMap columnsOf,
      IsLine ("\t".intercalate ss) ∧ "\t".intercalate ss ≠ "" := by
    intro ss hss
    obtain ⟨t, ht, hss⟩ := List.mem_flatMap.1 hss
    rcases List.mem_cons.1 hss with rfl | hss
    · exact isLine_typeColumns (h t ht).path
    · obtain ⟨f, hf, rfl⟩ := List.mem_map.1 hss
      exact isLine_fieldColumns (h t ht).path ((h t ht).fields f hf)
  rw [render_eq, lines_join, List.filter_eq_self]
  · intro s hs
    obtain ⟨ss, hss, rfl⟩ := List.mem_map.1 hs
    simpa using (hline ss hss).2
  · intro s hs
    obtain ⟨ss, hss, rfl⟩ := List.mem_map.1 hs
    exact (hline ss hss).1

/-! ## Reading -/

/-- The full names of the types. -/
def paths (ts : List TypeLayout) : List TypePath := ts.map (·.path)

theorem paths_attach {owner : TypePath} {f : FieldLayout} {ts ts' : List TypeLayout}
    (h : attach owner f ts = some ts') : paths ts' = paths ts := by
  induction ts generalizing ts' with
  | nil => cases h
  | cons t ts ih =>
    rw [attach] at h
    split at h
    · obtain rfl := Option.some.inj h
      rfl
    · obtain ⟨rest, hrest, rfl⟩ := Option.map_eq_some_iff.1 h
      exact congrArg (t.path :: ·) (ih hrest)

/-- The line of a type adds that type, if it can be read. -/
theorem paths_readLine_type {t : TypeLayout} (h : t.path.IsDeclared) {latest latest' : List TypeLayout}
    (hread : readLine latest ("\t".intercalate (typeColumns t)) = .ok latest') :
    paths latest' = t.path :: paths latest := by
  have hcolumns : Text.columns '\t' ("\t".intercalate (typeColumns t)) = typeColumns t := by
    refine columns_intercalate rfl (by simp [typeColumns]) ?_
    intro s hs
    simp only [typeColumns, List.mem_cons, List.not_mem_nil, or_false] at hs
    rcases hs with rfl | rfl | rfl | rfl
    · decide
    · exact h.isColumn.1
    · exact (isColumn_toString _).1
    · exact (isColumn_toString _).1
  have hentry : ∀ e, entry? ("\t".intercalate (typeColumns t)) = some e →
      ∃ size align, e = .type t.path size align := by
    intro e he
    rw [ entry?, hcolumns] at he
    simp only [typeColumns, TypePath.parse_display h, Option.bind_eq_bind, Option.bind_some,
      Option.bind_eq_some_iff] at he
    obtain ⟨size, -, align, -, he⟩ := he
    exact ⟨size, align, (Option.some.inj he).symm⟩
  unfold readLine at hread
  split at hread
  · cases hread
  · rename_i he
    obtain ⟨_, _, he⟩ := hentry _ he
    obtain ⟨rfl, -, -⟩ := Entry.type.inj he
    obtain rfl := Except.ok.inj hread
    rfl
  · rename_i he
    obtain ⟨_, _, he⟩ := hentry _ he
    cases he

/-- The line of a field adds no type. -/
theorem paths_readLine_field {owner : TypePath} {f : FieldLayout} {latest latest' : List TypeLayout}
    (hread : readLine latest ("\t".intercalate (fieldColumns owner f)) = .ok latest') :
    paths latest' = paths latest := by
  have htag : ∃ rest, Text.columns '\t' ("\t".intercalate (fieldColumns owner f)) = "field" :: rest := by
    refine ⟨Text.columns '\t'
      ("\t".intercalate [owner.display, f.name, f.typeName, toString f.offset]), ?_⟩
    rw [fieldColumns, String.intercalate_cons_cons, String.append_assoc,
      columns_append_sep rfl, columns_of_not_mem (by decide)]
    rfl
  obtain ⟨rest, htag⟩ := htag
  have hentry : ∀ path size align,
      entry? ("\t".intercalate (fieldColumns owner f)) ≠ some (.type path size align) := by
    intro path size align he
    rw [ entry?, htag] at he
    cases rest with
    | nil => cases he
    | cons owner' columns =>
      simp only [Option.bind_eq_bind, Option.bind_eq_some_iff] at he
      obtain ⟨owner', -, he⟩ := he
      split at he
      · rename_i h
        exact absurd h (by decide)
      · simp only [Option.bind_eq_some_iff] at he
        obtain ⟨_, -, he⟩ := he
        cases he
      · cases he
  unfold readLine at hread
  split at hread
  · cases hread
  · rename_i he
    exact absurd he (hentry _ _ _)
  · split at hread
    · rename_i hattach
      obtain rfl := Except.ok.inj hread
      exact paths_attach hattach
    · cases hread

theorem paths_foldlM_fields {owner : TypePath} {fs : List FieldLayout} {latest latest' : List TypeLayout}
    (h : ((fs.map (fieldColumns owner)).map ("\t".intercalate ·)).foldlM readLine latest = .ok latest') :
    paths latest' = paths latest := by
  induction fs generalizing latest with
  | nil => rw [Except.ok.inj h]
  | cons f fs ih =>
    rw [List.map_cons, List.map_cons, List.foldlM_cons] at h
    cases hread : readLine latest ("\t".intercalate (fieldColumns owner f)) with
    | error e => rw [hread] at h; cases h
    | ok read =>
      rw [hread] at h
      exact (ih h).trans (paths_readLine_field hread)

theorem paths_foldlM_types {ts : List TypeLayout} (hts : ∀ t ∈ ts, t.path.IsDeclared)
    {latest latest' : List TypeLayout}
    (h : ((ts.flatMap columnsOf).map ("\t".intercalate ·)).foldlM readLine latest = .ok latest') :
    paths latest' = (paths ts).reverse ++ paths latest := by
  induction ts generalizing latest with
  | nil => rw [← Except.ok.inj h]; rfl
  | cons t ts ih =>
    obtain ⟨ht, hts⟩ := List.forall_mem_cons.1 hts
    rw [List.flatMap_cons, List.map_append, List.foldlM_append, columnsOf, List.map_cons,
      List.foldlM_cons] at h
    cases htype : readLine latest ("\t".intercalate (typeColumns t)) with
    | error e => rw [htype] at h; cases h
    | ok typed =>
      rw [htype] at h
      simp only [bind, Except.bind] at h
      cases hfields : ((t.fields.map (fieldColumns t.path)).map ("\t".intercalate ·)).foldlM readLine
          typed with
      | error e => rw [hfields] at h; cases h
      | ok read =>
        rw [hfields] at h
        rw [ih hts h, paths_foldlM_fields hfields, paths_readLine_type ht htype]
        simp [paths]

/-- **A descriptor that can be read** is of the types that it was printed for. -/
theorem paths_read_render {ts ts' : List TypeLayout} (h : ∀ t ∈ ts, TypeUnbroken t)
    (hread : read (render ts) = .ok ts') : paths ts' = paths ts := by
  rw [read, lines_unbroken h] at hread
  cases hfold : ((ts.flatMap columnsOf).map ("\t".intercalate ·)).foldlM readLine [] with
  | error e => rw [hfold] at hread; cases hread
  | ok latest =>
    rw [hfold] at hread
    obtain rfl := Except.ok.inj hread
    have hpaths := paths_foldlM_types (fun t ht => (h t ht).path) hfold
    simp only [paths, List.map_reverse, List.map_nil, List.append_nil] at hpaths ⊢
    rw [hpaths, List.reverse_reverse]

end Descriptor

/-! ## Lists of types -/

namespace Crate

/-- What is printed of the struct: its full name and its fields, with any numbers, and with any names
of their types that end no line. -/
structure Described.Listed (d : Described) (t : TypeLayout) : Prop where
  path : t.path = d.path
  fields : t.fields.map (·.name) = d.fields.map (·.1)
  typeNames : ∀ f ∈ t.fields, '\n' ∉ f.typeName.toList

theorem Described.Listed.unbroken {d : Described} {t : TypeLayout} (h : d.Listed t) (hd : d.Named) :
    Descriptor.TypeUnbroken t := by
  refine ⟨h.path ▸ hd.path, fun f hf => ⟨?_, h.typeNames f hf⟩⟩
  have hname : f.name ∈ d.fields.map (·.1) := by
    rw [← h.fields]
    exact List.mem_map_of_mem hf
  obtain ⟨g, hg, he⟩ := List.mem_map.1 hname
  rw [← he]
  exact (isColumn_of_isIdentifier (hd.fields g hg)).2

end Crate

/-- The module loads, and its descriptor is printed for the structs, in some order. -/
inductive Loaded.Lists (ds : List Described) : Loaded → Prop where
  | intro {bytes : List UInt8} {layouts : List TypeLayout} {ordered : List Described} :
    ordered.Perm ds → List.Forall₂ Described.Listed ordered layouts →
    Compiler.upToZero bytes = encodeUtf8 (Descriptor.render layouts) →
    Loaded.Lists ds (.descriptor bytes)

/-- A faithful description lists the structs. -/
theorem Loaded.Describes.lists {ds : List Described} {loaded : Loaded} (h : loaded.Describes ds) :
    loaded.Lists ds := by
  obtain ⟨hperm, hlayouts, hbytes⟩ := h
  refine .intro hperm (hlayouts.imp fun d t ht => ⟨ht.path, ht.fields, fun f hf => ?_⟩) hbytes
  exact (ht.typeNames f hf).2

/-- **A list of types that can be read** is of those types. -/
theorem layoutsOf_lists {ds : List Described} {loaded : Loaded} (h : loaded.Lists ds)
    (hds : ∀ d ∈ ds, d.Named) {layouts : List TypeLayout}
    (hread : Compiler.layoutsOf loaded = .ok layouts) :
    (Descriptor.paths layouts).Perm (ds.map (·.path)) := by
  obtain ⟨hperm, hlisted, hbytes⟩ := h
  rename_i bytes printed ordered
  have hunbroken : ∀ t ∈ printed, Descriptor.TypeUnbroken t := by
    intro t ht
    obtain ⟨i, hi, rfl⟩ := List.mem_iff_getElem.1 ht
    obtain ⟨hlength, hall⟩ := List.forall₂_iff_get.1 hlisted
    have hi' : i < ordered.length := hlength ▸ hi
    have hmem : ordered[i] ∈ ds := hperm.mem_iff.1 (List.getElem_mem hi')
    exact (hall i hi' hi).unbroken (hds _ hmem)
  have hpaths : Descriptor.paths printed = ordered.map (·.path) := by
    clear hperm hbytes hunbroken
    induction hlisted with
    | nil => rfl
    | cons ht _ ih => exact congrArg₂ List.cons ht.path ih
  simp only [Compiler.layoutsOf, hbytes, decodeUtf8_encode] at hread
  split at hread
  · cases hread
  · rename_i read hrender
    obtain rfl := Except.ok.inj hread
    rw [Descriptor.paths_read_render hunbroken hrender, hpaths]
    exact hperm.map _

namespace Compiler

/-- If the answer to the crate of the targets is a module, then it lists the structs of the targets. -/
def ListedBy (targets references : List SourceUnit) (reply : Invocation → Reply) : Prop :=
  ∀ (i : Invocation) (loaded : Loaded), i.text = (crateOf targets references).text →
    reply i = .success loaded → loaded.Lists (described targets)

end Compiler

/-- **The types of a compiled module** are the structs that its units describe. -/
theorem Compiled.paths_perm {arena : Arena} {units : List String} {label : String} {origin : Origin}
    {reply : Invocation → Reply} {id : ModuleId} {p : PendingModule}
    (hp : Compiled arena units label origin reply id p)
    (hlisted : Compiler.ListedBy (units.filterMap SourceUnit.read?) (Compiler.references arena) reply) :
    (Descriptor.paths p.layouts).Perm
      ((Crate.described (units.filterMap SourceUnit.read?)).map (·.path)) := by
  obtain ⟨targets, i, loaded, htargets, hreply, htext, hlayouts⟩ := hp.described
  obtain ⟨rfl, hnamed⟩ := Compiler.mapM_readTarget_ok htargets
  exact layoutsOf_lists (hlisted i loaded htext hreply) (described_named hnamed) hlayouts

end TypeFoundry
