import TypeFoundry.Foundry
import TypeFoundry.Settings.File

/-!
# The command line

A command line names one command, with options before or behind it, as `--name value` or
`--name=value`. Every option may be given once on either side of the command; what is given behind it
counts. A line that asks for help ends well without an answer, and a line of any other form is
misused.
-/

set_option autoImplicit false

namespace TypeFoundry

/-- What a command line asks for. -/
inductive Command where
  | create (name : String)
  | addField (typeName : String) (request : FieldRequest)
  | types
  | entries
  | entities
  deriving DecidableEq

/-- The options of a command line. -/
structure Options where
  config : Option String
  sourceDir : Option String
  buildDir : Option String
  namespaceText : Option String
  deriving DecidableEq

namespace CommandLine

/-- Why a command line is not run. -/
inductive Refusal where
  /-- It asks for help or for the version. -/
  | help
  | misuse
  deriving DecidableEq

/-- The form of one part of a command line. -/
inductive Part where
  | word (text : String)
  | long (name : String) (value : Option String)
  | short (letter : Char)
  | onlyWords
  deriving DecidableEq

/-- The form of the text. -/
def Part.ofText (text : String) : Part :=
  match text.toList with
  | ['-', '-'] => .onlyWords
  | '-' :: '-' :: rest =>
    let name := rest.takeWhile (· ≠ '=')
    match rest.dropWhile (· ≠ '=') with
    | _ :: value => .long (.ofList name) (some (.ofList value))
    | [] => .long (.ofList name) none
  | '-' :: letter :: _ => .short letter
  | _ => .word text

/-- The options that can stand on either side of the command. -/
def globalOptions : List String := ["config", "source-dir", "build-dir", "namespace", "log-level"]

/-- The options whose value is a path and hence not empty. -/
def pathOptions : List String := ["config", "source-dir", "build-dir"]

/-- One side of the command: which options and how many words can stand there. -/
structure Side where
  options : List String
  words : Nat
  /-- Whether the words are acceptable so far. -/
  accepts : List String → Bool
  /-- Whether the version can be asked for. -/
  hasVersion : Bool

/-- What has been found on one side of the command. -/
structure Found where
  options : List (String × String)
  words : List String
  /-- What follows the words, if they were cut off there. -/
  behind : List String

/-- What has been found, with one more option. -/
def Found.addOption (f : Found) (side : Side) (name value : String) : Except Refusal Found :=
  if !side.options.contains name || f.options.any (·.1 = name) then .error .misuse
  else if pathOptions.contains name && value = "" then .error .misuse
  else .ok { f with options := f.options ++ [(name, value)] }

/-- What has been found, with further words. -/
def Found.addWords (f : Found) (side : Side) (words : List String) : Except Refusal Found :=
  let all := f.words ++ words
  if side.words < all.length || !side.accepts all then .error .misuse
  else .ok { f with words := all }

/-- Goes through one side of the command. In front of the command it ends with the first word, which
is the command. -/
def scan (side : Side) (isFront : Bool) : Found → List String → Except Refusal Found
  | f, [] => .ok f
  | f, text :: rest =>
    match Part.ofText text with
    | .word w =>
      if isFront then .ok { f with words := [w], behind := rest }
      else do scan side isFront (← f.addWords side [w]) rest
    | .onlyWords => if isFront && !rest.isEmpty then .error .misuse else f.addWords side rest
    | .short letter =>
      if letter = 'h' || (side.hasVersion && letter = 'V') then .error .help else .error .misuse
    | .long name value =>
      if name = "help" || (side.hasVersion && name = "version") then
        .error (if value.isSome then .misuse else .help)
      else
        match value, rest with
        | some value, rest => do scan side isFront (← f.addOption side name value) rest
        | none, [] => .error .misuse
        | none, next :: rest =>
          match Part.ofText next with
          | .word value => do scan side isFront (← f.addOption side name value) rest
          | _ => .error .misuse

/-- The kind of field that the word names. -/
def kind? : String → Option FieldKind
  | "int" => some .int
  | "long" => some .long
  | "double" => some .double
  | "bool" => some .bool
  | "string" => some .string
  | "reference" => some .reference
  | _ => none

/-- Whether the third word, if there is one, names a kind. -/
def acceptsField (words : List String) : Bool :=
  match words with
  | [_, _, kind] => (kind? kind).isSome
  | _ => true

/-- The commands. -/
def commandNames : List String := ["create", "add-field", "types", "dynamic-types", "entities"]

/-- What can stand behind the command. -/
def sideBehind (name : String) : Side :=
  match name with
  | "create" => ⟨globalOptions, 1, fun _ => true, false⟩
  | "add-field" => ⟨"reference" :: globalOptions, 3, acceptsField, false⟩
  | _ => ⟨globalOptions, 0, fun _ => true, false⟩

/-- The command of that name with the words behind it. -/
def command? (name : String) (words : List String) (reference : Option String) : Option Command :=
  match name, words with
  | "create", [typeName] => some (.create typeName)
  | "add-field", [typeName, field, kind] =>
    (kind? kind).map fun kind => .addField typeName ⟨field, kind, reference⟩
  | "types", [] => some .types
  | "dynamic-types", [] => some .entries
  | "entities", [] => some .entities
  | _, _ => none

/-- Whether the words behind `help` name at most one command. -/
def helpTopics : List String → Bool
  | [] => true
  | [topic] => ("help" :: commandNames).contains topic
  | _ => false

/-- The value of the option. -/
def valueOf (name : String) (options : List (String × String)) : Option String :=
  (options.find? (·.1 = name)).map (·.2)

/-- The command and the options that the line holds. -/
def parse (line : List String) : Except Refusal (Options × Command) := do
  let front ← scan ⟨globalOptions, 0, fun _ => true, true⟩ true ⟨[], [], []⟩ line
  match front.words with
  | [name] =>
    if name = "help" then throw (if helpTopics front.behind then .help else .misuse)
    else if !commandNames.contains name then throw .misuse
    else
      let back ← scan (sideBehind name) false ⟨[], [], []⟩ front.behind
      let options := back.options ++ front.options
      match command? name back.words (valueOf "reference" back.options) with
      | some c =>
        return (⟨valueOf "config" options, valueOf "source-dir" options,
          valueOf "build-dir" options, valueOf "namespace" options⟩, c)
      | none => throw .misuse
  | _ => throw .misuse

end CommandLine

/-! ## Running a command -/

/-- The settings of the options, over those of the file that they name. -/
def Options.settings (o : Options) (toolchain : String) : Action Settings := do
  let base ← match o.config with
    | some path => Settings.ofFile toolchain path
    | none => pure (Settings.standard toolchain)
  let s := { base with
    sourceDir := o.sourceDir.getD base.sourceDir
    buildDir := o.buildDir.getD base.buildDir
    namespaceText := o.namespaceText.getD base.namespaceText }
  Action.ofExcept s.check
  return s

/-- Carries out the command; the result is its answer. -/
def Command.run : Command → Step Json
  | .create name => do return (← Foundry.createType ⟨name⟩).toJson
  | .addField typeName r => do return (← Foundry.addField typeName r).toJson
  | .types => do return .array ((← Step.foundry).listTypes.map TypeListing.toJson)
  | .entries => do return .array ((← Step.foundry).listEntries.map EntryListing.toJson)
  | .entities => do return .array ((← Step.foundry).entities.map TypeHandle.toJson)

/-- Opens a foundry for the one command and carries it out. -/
def Command.execute (toolchain : String) (o : Options) (c : Command) : Action Json := do
  let f ← Foundry.start (← o.settings toolchain)
  fun w =>
    let (r, (_, w)) := (c.run).run (f, w)
    (r, w)

/-- How a command line ends. -/
inductive Ending where
  | answered (j : Json)
  | halted (h : Halt)
  | refused (r : CommandLine.Refusal)

namespace Ending

/-- The exit code. -/
def code : Ending → Nat
  | .answered _ => 0
  | .halted (.failure _) => 1
  | .halted .aborted => 101
  | .refused .help => 0
  | .refused .misuse => 2

/-- What is printed as the answer. -/
def output? : Ending → Option Json
  | .answered j => some j
  | .halted (.failure f) => some f.response
  | _ => none

end Ending

/-- Runs the command line in the world. -/
def CommandLine.run (toolchain : String) (line : List String) (w : World) : Ending × World :=
  match CommandLine.parse line with
  | .error r => (.refused r, w)
  | .ok (o, c) =>
    match (c.execute toolchain o).run w with
    | (.ok j, w) => (.answered j, w)
    | (.error h, w) => (.halted h, w)

end TypeFoundry
