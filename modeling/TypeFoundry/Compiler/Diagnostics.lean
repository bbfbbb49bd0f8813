import TypeFoundry.Failure
import TypeFoundry.Json.Read
import TypeFoundry.Text.Decimal
import TypeFoundry.Text.Lines

/-!
# Diagnostics of the toolchain

The toolchain reports on its error output, a JSON message a line. Error messages become diagnostics
at the first place that they mark as primary, or else at their first place. Lines of any other form,
messages below errors and the closing message that only counts the others give nothing.
-/

set_option autoImplicit false

namespace TypeFoundry

/-- A place that a message points at. -/
structure Span where
  file : String
  line : Nat
  column : Nat
  isPrimary : Bool
  deriving DecidableEq

/-- A message of the toolchain. -/
structure ToolMessage where
  type : Option String
  message : String
  level : String
  spans : List Span
  deriving DecidableEq

namespace Span

/-- The place that the value describes. -/
def ofJson? (j : Json) : Option Span :=
  match j.known? ["file_name", "line_start", "column_start", "is_primary"] false with
  | some [some file, some line, some column, some isPrimary] =>
    return ⟨← file.text?, ← line.natural? Text.wordBound, ← column.natural? Text.wordBound,
      ← isPrimary.bool?⟩
  | _ => none

end Span

namespace ToolMessage

/-- The message that the value describes. -/
def ofJson? (j : Json) : Option ToolMessage :=
  match j.known? ["$message_type", "message", "level", "spans"] false with
  | some [type, some message, some level, spans] =>
    return ⟨← (type.getD .null).optional?, ← message.text?, ← level.text?,
      ← (spans.getD (.array [])).list? Span.ofJson?⟩
  | _ => none

/-- The message that the line is. -/
def ofLine? (line : String) : Option ToolMessage := (Json.read? line).bind ofJson?

/-- Whether the message reports an error: it is a diagnostic of an error level, and not the closing
one without a place. -/
def isError (m : ToolMessage) : Bool :=
  m.type.all (· == "diagnostic") && m.level.startsWith "error"
    && !(m.spans.isEmpty && m.message.startsWith "aborting due to")

/-- The place at which the message is reported. -/
def place? (m : ToolMessage) : Option Span := (m.spans.find? (·.isPrimary)).orElse fun _ => m.spans.head?

/-- The message as a diagnostic. -/
def diagnostic (m : ToolMessage) : Diagnostic :=
  match m.place? with
  | some s => ⟨s.file, s.line, s.column, m.message⟩
  | none => ⟨"", 0, 0, m.message⟩

end ToolMessage

/-- The errors that the output reports, in order. -/
def reportedErrors (output : String) : List Diagnostic :=
  (((Text.lines output).filterMap ToolMessage.ofLine?).filter (·.isError)).map (·.diagnostic)

/-- The diagnostics of a failed compilation of the file: the errors that the output reports or, if
it reports none, the output itself. -/
def failureDiagnostics (file : String) (stderr : List UInt8) : List Diagnostic :=
  let output := Text.decodeLossy stderr
  match reportedErrors output with
  | [] => [⟨file, 0, 0, Text.trim output⟩]
  | errors => errors

end TypeFoundry
