import TypeFoundry.Proofs.Describing
import TypeFoundry.Proofs.Presence
import TypeFoundry.Proofs.Quoting

/-!
# What a crate reports

A statement of a describing function fills the values of its columns into a format and appends the
line. Filled with the values of a layout, the formats are the lines of the layout, so the text that they
make up for any types is read as those types (`read_reported`). `Writes` says what a body of such
statements writes, `Reports` what the entry point of a crate hands out: the functions that it calls are
looked up in the modules of the crate.
-/

set_option autoImplicit false

namespace TypeFoundry

open Source Crate

/-! ## Formats -/

namespace Text

/-- The format with one value after the other in the place of each pair of braces. -/
def filled : List Char → List String → List Char
  | '\x7b' :: '\x7d' :: cs, v :: vs => v.toList ++ filled cs vs
  | c :: cs, vs => c :: filled cs vs
  | [], _ => []

end Text

namespace Source

/-- The format of the text that the statement appends, if it appends a formatted one. -/
def Stmt.format? : Stmt → Option String
  | .expr (.method _ "push_str" [] [.borrow false (.invocation _ .paren (.literal written :: _))])
      true => Literal.textValue? written
  | _ => none

/-- The text that the statement appends if its columns have these values. -/
def Stmt.appended? (values : List String) (st : Stmt) : Option String :=
  st.format?.map fun format => .ofList (Text.filled format.toList values)

end Source

namespace Crate

/-- The line of a struct, from the values of its columns. -/
theorem appended_typeStatement (path : TypePath) (t : TypeLayout) :
    (typeStatement path).appended? [t.path.display, toString t.size, toString t.align] =
      some (Descriptor.typeLine t) := by
  have hformat : (typeStatement path).format? = some "type\t\x7b\x7d\t\x7b\x7d\t\x7b\x7d\n" := by
    rfl
  rw [Stmt.appended?, hformat, Option.map_some]
  congr 1
  rw [← String.toList_inj]
  simp [Text.filled, Descriptor.typeLine, Descriptor.line]

/-- The line of a field, from the values of its columns. -/
theorem appended_fieldStatement (path owner : TypePath) (name : String) (type : Ty)
    (f : FieldLayout) :
    (fieldStatement path name type).appended?
        [owner.display, f.name, f.typeName, toString f.offset] =
      some (Descriptor.fieldLine owner f) := by
  have hformat : (fieldStatement path name type).format? =
      some "field\t\x7b\x7d\t\x7b\x7d\t\x7b\x7d\t\x7b\x7d\n" := by
    rfl
  rw [Stmt.appended?, hformat, Option.map_some]
  congr 1
  rw [← String.toList_inj]
  simp [Text.filled, Descriptor.fieldLine, Descriptor.line]

end Crate

/-! ## Reading back what the formats make up -/

namespace Source

mutual

theorem Item.Named.leaf {i : Item} (h : i.Named) {path : List String} {s : StructDecl}
    (hs : Item.struct s ∈ leavesAt path [i]) :
    (∀ m ∈ path, isModuleName m = true) ∧ (Item.struct s).Named := by
  cases i with
  | module head items =>
    rw [leavesAt_module] at hs
    cases path with
    | nil => cases hs
    | cons name path =>
      simp only at hs
      split at hs
      · rename_i hname
        obtain ⟨hpath, hstruct⟩ := AllNamed.leaf h.2 hs
        exact ⟨List.forall_mem_cons.2 ⟨hname ▸ h.1, hpath⟩, hstruct⟩
      · cases hs
  | struct t =>
    obtain ⟨rfl, hst⟩ := (mem_leavesAt_leaf rfl).1 hs
    exact ⟨by simp, hst ▸ h⟩
  | use u => cases ((mem_leavesAt_leaf rfl).1 hs).2
  | enum e => cases ((mem_leavesAt_leaf rfl).1 hs).2
  | other d => cases ((mem_leavesAt_leaf rfl).1 hs).2

theorem AllNamed.leaf {items : List Item} (h : AllNamed items) {path : List String}
    {s : StructDecl} (hs : Item.struct s ∈ leavesAt path items) :
    (∀ m ∈ path, isModuleName m = true) ∧ (Item.struct s).Named := by
  cases items with
  | nil => rw [leavesAt_nil] at hs; cases hs
  | cons i is =>
    rw [leavesAt_cons] at hs
    obtain hs | hs := List.mem_append.1 hs
    · exact Item.Named.leaf h.1 hs
    · exact AllNamed.leaf h.2 hs

end

/-- The full name of a struct that can be read is declared, and its fields are called by identifiers. -/
theorem SourceUnit.isDeclared_of_read {source : String} {unit : SourceUnit}
    (h : SourceUnit.read source = .ok unit) {path : List String} {s : StructDecl}
    (hs : Item.struct s ∈ leavesAt path unit.items) :
    (⟨path, s.name⟩ : TypePath).IsDeclared ∧ ∀ f ∈ s.namedFields, isIdentifier f.name = true := by
  obtain ⟨hpath, hname, hfields⟩ := (SourceUnit.read_named h).leaf hs
  exact ⟨⟨hpath, hname⟩, hfields⟩

end Source

namespace Descriptor

/-- The lines that the statements of a struct append if their columns have the values of the layout; the
types of the fields do not matter, since the compiler is asked for what they are called. -/
def reportedLines (types : FieldLayout → Ty) (t : TypeLayout) : List (Option String) :=
  (typeStatement t.path).appended? [t.path.display, toString t.size, toString t.align] ::
    t.fields.map fun f => (fieldStatement t.path f.name (types f)).appended?
      [t.path.display, f.name, f.typeName, toString f.offset]

/-- The text that the statements of the structs make up of the layouts. -/
def reported? (types : FieldLayout → Ty) (ts : List TypeLayout) : Option String :=
  ((ts.flatMap (reportedLines types)).mapM id).map String.join

theorem reportedLines_eq (types : FieldLayout → Ty) (t : TypeLayout) :
    reportedLines types t = (typeLines t).map some := by
  simp only [reportedLines, typeLines, appended_typeStatement, appended_fieldStatement, List.map_cons,
    List.map_map]
  rfl

theorem reported?_eq (types : FieldLayout → Ty) (ts : List TypeLayout) :
    reported? types ts = some (render ts) := by
  have hlines : ts.flatMap (reportedLines types) = (ts.flatMap typeLines).map some := by
    rw [List.map_flatMap]
    exact congrArg (List.flatMap · ts) (funext (reportedLines_eq types))
  have hall : ∀ lines : List String, (lines.map some).mapM id = some lines := by
    intro lines
    induction lines with
    | nil => rfl
    | cons line lines ih => rw [List.map_cons, List.mapM_cons, ih]; rfl
  rw [reported?, hlines, hall, render]
  rfl

/-- **Reading undoes the formats.** -/
theorem read_reported {ts : List TypeLayout} (h : ∀ t ∈ ts, t.Printable) (types : FieldLayout → Ty) :
    (reported? types ts).map read = some (.ok ts) := by
  rw [reported?_eq, Option.map_some, read_render h]

theorem read_reported_repeated :
    let node : TypePath := ⟨["models", "try"], "r#type"⟩
    let ts : List TypeLayout :=
      [⟨node, 4, 4, [⟨"id", "u32", 0⟩]⟩, ⟨⟨[], "Item"⟩, 0, 1, []⟩,
        ⟨node, 48, 16, [⟨"r#fn", "alloc::string::String", 16⟩, ⟨"id", "u128", 0⟩]⟩]
    (∀ t ∈ ts, t.Printable) ∧ (reported? (fun _ => .infer) ts).map read = some (.ok ts) := by
  intro node ts
  have hnode : node.IsDeclared := ⟨by decide +kernel, by decide +kernel⟩
  have hprintable : ∀ t ∈ ts, t.Printable := by
    intro t ht
    simp only [ts, List.mem_cons, List.not_mem_nil, or_false] at ht
    rcases ht with rfl | rfl | rfl
    · refine ⟨hnode, by decide, by decide, fun f hf => ?_⟩
      obtain rfl := List.mem_singleton.1 hf
      exact ⟨⟨by decide, by decide⟩, ⟨by decide, by decide⟩, by decide⟩
    · exact ⟨⟨by simp, by decide +kernel⟩, by decide, by decide, by simp⟩
    · refine ⟨hnode, by decide, by decide, fun f hf => ?_⟩
      simp only [List.mem_cons, List.not_mem_nil, or_false] at hf
      rcases hf with rfl | rfl <;>
        exact ⟨⟨by decide, by decide⟩, ⟨by decide, by decide⟩, by decide⟩
  exact ⟨hprintable, read_reported hprintable _⟩

end Descriptor

namespace Crate

/-! ## What statements write -/

/-- What a compiler measures of the types of a crate; a type of a field is seen from its module. -/
structure Measures where
  size : TypePath → Nat
  align : TypePath → Nat
  typeName : List String → Ty → String
  offset : TypePath → String → Nat

/-- The layout that the compiler measures. -/
def Measures.layout (m : Measures) (d : Described) : TypeLayout where
  path := d.path
  size := m.size d.path
  align := m.align d.path
  fields := d.fields.map fun f =>
    ⟨f.1, m.typeName d.path.modules f.2, m.offset d.path f.1⟩

/-- The text that a column shows in a function of the module. -/
inductive Shows (m : Measures) (modules : List String) : Tokens → String → Prop
  | text {written s : String} : Literal.textValue? written = some s →
      Shows m modules [.literal written] s
  | size (name : String) : Shows m modules (callOn ["std", "mem", "size_of"] [.word name])
      (toString (m.size ⟨modules, name⟩))
  | align (name : String) : Shows m modules (callOn ["std", "mem", "align_of"] [.word name])
      (toString (m.align ⟨modules, name⟩))
  | typeName (type : Ty) : Shows m modules (callOn ["std", "any", "type_name"] type.tokens)
      (m.typeName modules type)
  | offset (name field : String) : Shows m modules
      (globalPath ["std", "mem", "offset_of"] ++ op "!" ++
        [.group .paren (.word name :: op "," ++ [.word field])])
      (toString (m.offset ⟨modules, name⟩ field))

/-- The statement appends the text, which is its format filled with what its columns show. -/
def Appends (m : Measures) (modules : List String) (st : Stmt) (text : String) : Prop :=
  ∃ format columns values, st = appendLine format columns ∧
    List.Forall₂ (Shows m modules) columns values ∧ st.appended? values = some text

/-- The body writes the text: its statements append it, one line after the other. -/
def Writes (m : Measures) (modules : List String) (body : List Stmt) (text : String) : Prop :=
  ∃ lines, List.Forall₂ (Appends m modules) body lines ∧ text = String.join lines

section

variable (m : Measures)

theorem shows_stringLiteral (modules : List String) (s : String) :
    Shows m modules [.literal (Text.stringLiteral s)] s :=
  .text (Literal.textValue?_stringLiteral s)

theorem appends_typeStatement (d : Described) :
    Appends m d.path.modules (typeStatement d.path) (Descriptor.typeLine (m.layout d)) := by
  refine ⟨_, _, _, rfl, ?_, appended_typeStatement d.path (m.layout d)⟩
  exact .cons (shows_stringLiteral m _ _) (.cons (.size d.path.name) (.cons (.align d.path.name) .nil))

theorem appends_fieldStatement (path : TypePath) (name : String) (type : Ty) :
    Appends m path.modules (fieldStatement path name type) (Descriptor.fieldLine path
      ⟨name, m.typeName path.modules type, m.offset path name⟩) := by
  refine ⟨_, _, _, rfl, ?_, appended_fieldStatement path path name type _⟩
  exact .cons (shows_stringLiteral m _ _) (.cons (shows_stringLiteral m _ _)
    (.cons (.typeName type) (.cons (.offset path.name name) .nil)))

/-- The statements of a struct write its line and then those of its fields. -/
theorem appends_statements (d : Described) :
    List.Forall₂ (Appends m d.path.modules) (statements d) (Descriptor.typeLines (m.layout d)) := by
  refine .cons (appends_typeStatement m d) ?_
  rw [List.forall₂_map_right_iff, Measures.layout, List.forall₂_map_right_iff, List.forall₂_map_left_iff,
    List.forall₂_same]
  exact fun f _ => appends_fieldStatement m d.path f.1 f.2

/-- **The statements of the structs of a module** write the lines of these structs, in their order. -/
theorem writes_statements {modules : List String} {ds : List Described}
    (h : ∀ d ∈ ds, d.path.modules = modules) :
    Writes m modules (ds.flatMap statements) (Descriptor.render (ds.map m.layout)) := by
  refine ⟨(ds.map m.layout).flatMap Descriptor.typeLines, ?_, rfl⟩
  induction ds with
  | nil => exact .nil
  | cons d ds ih =>
    have hd := appends_statements m d
    rw [h d List.mem_cons_self] at hd
    rw [List.flatMap_cons, List.map_cons, List.flatMap_cons]
    exact List.rel_append hd (ih fun e he => h e (List.mem_cons_of_mem _ he))

end

/-! ## The entry point -/

/-- The body of the function of that name, if the item is one. -/
def functionBody? (name : String) : Item → Option Block
  | .other (.function _ _ sig body) => if sig.name = name then some body else none
  | _ => none

/-- The bodies of the functions of that name right in the module at the path. -/
def functionsAt (path : List String) (name : String) (items : List Item) : List Block :=
  (leavesAt path items).filterMap (functionBody? name)

/-- The names of a path of plain names. -/
def plainNames? : Source.Path → Option (List String)
  | ⟨false, segments⟩ => segments.mapM fun
    | .plain name => some name
    | _ => none
  | _ => none

/-- The path of the function that the statement calls on the text, if it does. -/
def textCall? : Stmt → Option (List String)
  | .expr (.call (.path function) [.borrow true (.path argument)]) true =>
    if argument.name? = some "out" then plainNames? function else none
  | _ => none

/-- The paths of the functions that the entry point calls on the text, one after the other. -/
def entryCalls? : Item → Option (List (List String))
  | .other (.function _ _ sig
      [.item _, .expr (.method (.method _ "get_or_init" [] [.closure _ _ [] _ (.block _ body)])
        "as_ptr" [] []) false]) =>
    if sig.name = entryPoint then some (body.filterMap textCall?) else none
  | _ => none

/-- The path leads to a function of the crate, and its body writes the text. -/
def Answers (m : Measures) (crate : SourceUnit) (path : List String) (text : String) : Prop :=
  ∃ modules name body, path = "crate" :: modules ++ [name] ∧
    body ∈ functionsAt modules name crate.items ∧ Writes m modules body text

/-- The entry point of the crate reports the text: all that the functions write that it calls. -/
def Reports (m : Measures) (crate : SourceUnit) (text : String) : Prop :=
  ∃ entry ∈ leavesAt [] crate.items, ∃ calls texts, entryCalls? entry = some calls ∧
    List.Forall₂ (Answers m crate) calls texts ∧ text = String.join texts

/-- **The entry point** calls the function of each module, once and in their order. -/
theorem entryCalls_entryFunction (modules : List (List String)) :
    entryCalls? (entryFunction modules) =
      some (modules.map fun path => "crate" :: path ++ [moduleFunction]) := by
  have hcall : ∀ path, textCall? (moduleCall path) = some ("crate" :: path ++ [moduleFunction]) := by
    intro path
    have hplain : ∀ names : List String, plainNames? (.ofNames false names) = some names := by
      intro names
      rw [Path.ofNames, plainNames?]
      induction names with
      | nil => rfl
      | cons name names ih => rw [List.map_cons, List.mapM_cons, ih]; rfl
    rw [moduleCall, textCall?, if_pos (by rfl), hplain]
    rfl
  have hcalls : (modules.map moduleCall).filterMap textCall? =
      modules.map fun path => "crate" :: path ++ [moduleFunction] := by
    rw [List.filterMap_map, ← List.filterMap_eq_map]
    exact List.filterMap_congr fun path _ => hcall path
  simp only [entryFunction, entryCalls?, writer, plainSignature, if_pos]
  rw [List.filterMap_append, List.filterMap_cons, hcalls]
  simp [textCall?]

end Crate

end TypeFoundry
