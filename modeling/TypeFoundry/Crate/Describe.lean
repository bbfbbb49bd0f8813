import TypeFoundry.Naming.TypePath
import TypeFoundry.Synthesis.Locate
import TypeFoundry.Synthesis.NewType

/-!
# Crates that describe themselves

Every module of a crate that holds described structs gets a function that writes their lines of the
descriptor, and the crate an entry point that calls these functions and hands out what they wrote.
Structs without parameters are described, in the order in which the units define them.
-/

set_option autoImplicit false

namespace TypeFoundry.Crate

open Source

/-- A struct that is to be described. -/
structure Described where
  path : TypePath
  fields : List (String × Ty)

mutual

/-- The structs to be described in the item, which stands in the given modules. -/
def describedIn (modules : List String) : Item → List Described
  | .struct s =>
    if s.generics.params.isEmpty then
      [⟨⟨modules, s.name⟩, s.namedFields.map fun f => (f.name, f.type)⟩]
    else []
  | .module head items => describedAll (modules ++ [head.name]) items
  | _ => []

/-- The structs to be described in the items, which stand in the given modules. -/
def describedAll (modules : List String) : List Item → List Described
  | [] => []
  | i :: is => describedIn modules i ++ describedAll modules is

end

/-- The structs to be described in the units. -/
def described (units : List SourceUnit) : List Described :=
  units.flatMap fun u => describedAll [] u.items

/-- The modules that hold the structs, each once, in the order in which they first occur. -/
def modulesOf (ds : List Described) : List (List String) :=
  ds.foldl (fun ms d => if ms.contains d.path.modules then ms else ms ++ [d.path.modules]) []

/-! ## The function of a module -/

/-- The name of the function that describes the structs of its module. -/
def moduleFunction : String := "__typeforge_describe_module"

/-- The tokens of a path of plain names from the outermost crate on. -/
def globalPath (names : List String) : Tokens :=
  names.flatMap fun name => op "::" ++ [.word name]

/-- A call without arguments of a function that takes a type, in tokens. -/
def callOn (names : List String) (type : Tokens) : Tokens :=
  globalPath names ++ op "::" ++ op "<" ++ type ++ op ">" ++ [.group .paren []]

/-- The statement that formats the columns and appends the line to the text. -/
def appendLine (format : String) (columns : List Tokens) : Stmt :=
  .expr (.method (.path (.ofNames false ["out"])) "push_str" []
    [.borrow false (.invocation (.ofNames true ["std", "format"]) .paren
      (commaJoined ([.literal format] :: columns) true))]) true

/-- The statement that writes the line of a struct. -/
def typeStatement (path : TypePath) : Stmt :=
  appendLine "\"type\\t\x7b\x7d\\t\x7b\x7d\\t\x7b\x7d\\n\""
    [[.literal (Text.stringLiteral path.display)],
      callOn ["std", "mem", "size_of"] [.word path.name],
      callOn ["std", "mem", "align_of"] [.word path.name]]

/-- The statement that writes the line of a field. -/
def fieldStatement (path : TypePath) (name : String) (type : Ty) : Stmt :=
  appendLine "\"field\\t\x7b\x7d\\t\x7b\x7d\\t\x7b\x7d\\t\x7b\x7d\\n\""
    [[.literal (Text.stringLiteral path.display)], [.literal (Text.stringLiteral name)],
      callOn ["std", "any", "type_name"] type.tokens,
      globalPath ["std", "mem", "offset_of"] ++ op "!" ++
        [.group .paren (.word path.name :: op "," ++ [.word name])]]

/-- The statements that write the lines of a struct. -/
def statements (d : Described) : List Stmt :=
  typeStatement d.path :: d.fields.map fun f => fieldStatement d.path f.1 f.2

/-- The attribute that keeps an item out of the documentation. -/
def hidden : Attribute := Synthesis.wordsAttribute false "doc" ["hidden"]

/-- The type of the text that is written. -/
def textType : Ty := .ofNames true ["std", "string", "String"]

/-- The head of a function that has no parameters of its own kind. -/
def plainSignature (abi : Option (Option String)) (name : String) (params : List Param)
    (output : Option Ty) : Signature :=
  ⟨false, false, false, abi, name, .none, params, output⟩

/-- The function that describes the structs. -/
def describeFunction (ds : List Described) : Item :=
  .other (.function [hidden] (.restricted false ⟨false, ["crate"]⟩)
    (plainSignature none moduleFunction
      [.typed [] (.binding false false "out" none) (.reference none true textType)] none)
    (ds.flatMap statements))

/-! ## The entry point -/

/-- The name of the entry point. -/
def entryPoint : String := "__typeforge_describe"

/-- The call of the function of the module. -/
def moduleCall (modules : List String) : Stmt :=
  .expr (.call (.path (.ofNames false (TypePath.crateSegments ⟨modules, moduleFunction⟩)))
    [.borrow true (.path (.ofNames false ["out"]))]) true

/-- The names of the cell that holds the text once it is written. -/
def cellNames : List String := ["std", "sync", "OnceLock"]

/-- The names of the type of texts for other programs. -/
def foreignText : List String := ["std", "ffi", "CString"]

/-- The declaration of the cell. -/
def cellTokens : Tokens :=
  [.word "static", .word "DESCRIPTOR"] ++ op ":" ++ globalPath cellNames ++ op "<" ++
    globalPath foreignText ++ op ">" ++ op "=" ++ globalPath (cellNames ++ ["new"]) ++
    .group .paren [] :: op ";"

/-- The function without parameters that calls the functions of the modules and answers the text. -/
def writer (modules : List (List String)) : Expr :=
  .closure false false [] none (.block none <|
    .bind [] (.binding false true "out" none)
      (some (.call (.path (.ofNames true ["std", "string", "String", "new"])) [])) none ::
    modules.map moduleCall ++
    [.expr (.method (.call (.path (.ofNames true (foreignText ++ ["new"])))
      [.path (.ofNames false ["out"])]) "unwrap_or_default" [] []) false])

/-- The entry point that calls the functions of the modules. -/
def entryFunction (modules : List (List String)) : Item :=
  .other (.function
    [hidden, ⟨false, .flag ⟨false, ["no_mangle"]⟩⟩] .everywhere
    (plainSignature (some (some "\"C\"")) entryPoint []
      (some (.pointer false (.ofNames true ["std", "os", "raw", "c_char"]))))
    [.item cellTokens,
      .expr (.method (.method (.path (.ofNames false ["DESCRIPTOR"])) "get_or_init" []
        [writer modules]) "as_ptr" [] []) false])

/-! ## The crate -/

/-- The items with the function of one module in that module, if it is there. -/
def describeModule (ds : List Described) (items : List Item) (modules : List String) : List Item :=
  modifyModule (· ++ [describeFunction (ds.filter fun d => d.path.modules = modules)]) modules items

/-- The crate with the functions that describe the structs, and with the entry point. -/
def describe (unit : SourceUnit) (ds : List Described) : SourceUnit :=
  let modules := modulesOf ds
  let found := modules.filter fun m => (moduleItems? m unit.items).isSome
  { unit with items := modules.foldl (describeModule ds) unit.items ++ [entryFunction found] }

end TypeFoundry.Crate
