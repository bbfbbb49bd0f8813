import TypeFoundry.Source.Pattern
import TypeFoundry.Source.Ty.Read
import TypeFoundry.Source.Literal

/-!
# Reading patterns

Patterns are read from tokens. A name binds a variable unless what follows it makes it a path. The
number that the readers take first bounds how deep they call each other.
-/

set_option autoImplicit false

namespace TypeFoundry.Source.Reader

/-- The name or number of a field. -/
def memberName : Reader String := fun ts =>
  match ts with
  | .literal text :: ts' => if Literal.isWhole text then .ok (text, ts') else stop ts
  | _ => name ts

section

variable (constant : Reader Unit)

/-- A number, text or truth value in a pattern. -/
def patternLiteral : Reader Pattern := do
  if ← operator? "-" then return .literal ("-" ++ (← literal))
  else return .literal (← literal)

/-- Whether a name comes next that starts a path rather than binding a variable. -/
def startsPatternPath (ts : Tokens) : Bool :=
  let next := behind ts
  (startsName ts && (startsOp "::" next || startsOp "!" next || startsGroup .brace next ||
      startsGroup .paren next || startsOp ".." next)) ||
    (startsWord "self" ts && startsOp "::" next) || startsOp "::" ts ||
    ["Self", "super", "crate"].any (startsWord · ts)

mutual

/-- A pattern without alternatives. -/
def pattern : Nat → Reader Pattern
  | 0 => stop
  | n + 1 => do
    let ts ← rest
    if startsPatternPath ts then
      let (rooted, segments) ← path constant n true
      let p : Path := ⟨rooted, segments⟩
      let ts ← rest
      if startsGroup .paren ts then
        let (elems, _) ← group .paren (commaList (patternAlternatives n))
        return .variant p elems
      else if startsGroup .brace ts then recordPattern n p
      else if startsOp ".." ts then rangePattern n (some (.path p))
      else return .path p
    else if ← keyword? "_" then return .wild
    else if startsOp "-" ts || startsLiteral ts then
      let p ← patternLiteral
      if ← sees (startsOp "..") then rangePattern n (some p)
      else return p
    else if startsWord "ref" ts || startsWord "mut" ts || startsWord "self" ts || startsName ts then
      let isRef ← keyword? "ref"
      let isMut ← keyword? "mut"
      let a ← nameOr ["self"]
      let sub ← if ← operator? "@" then some <$> pattern n else pure none
      return .binding isRef isMut a sub
    else if ← operator? "&" then
      let isMut ← keyword? "mut"
      return .reference isMut (← pattern n)
    else if startsGroup .paren ts then
      group .paren do
        let (elems, comma) ← commaList (patternAlternatives n)
        match elems with
        | [.rest] => return .tuple [.rest] comma
        | [p] => if comma then return .tuple [p] true else return .paren p
        | elems => return .tuple elems comma
    else if startsGroup .bracket ts then
      return .slice (← group .bracket (commaList (patternAlternatives n))).1
    else if startsOp "..=" ts then rangePattern n none
    else if startsOp ".." ts then
      operator ".."
      return .rest
    else stop

/-- The rest of a range whose lower end has been read. -/
def rangePattern : Nat → Option Pattern → Reader Pattern
  | 0, _ => stop
  | n + 1, lower => do
    let isClosed := (← sees (startsOp "..="))
    operator (if isClosed then "..=" else "..")
    let ts ← rest
    if ts.isEmpty || ["=", ":", ",", ";", "|", "=>"].any (startsOp · ts) || startsWord "if" ts then
      return .range lower isClosed none
    else return .range lower isClosed (some (← pattern n))

/-- The fields of a struct pattern behind its path. -/
def recordPattern : Nat → Path → Reader Pattern
  | 0, _ => stop
  | n + 1, p => do
    let fields ← group .brace (fieldPatterns n)
    return .record p (fields.filterMap id) (fields.any (·.isNone))

/-- The fields of a struct pattern up to its end, or to the two dots that leave out the others. -/
def fieldPatterns : Nat → Reader (List (Option FieldPattern))
  | 0 => stop
  | n + 1 => do
    if ← isDone then return []
    else if ← operator? ".." then return [none]
    else
      let ts ← rest
      let isPair := startsOp ":" (behind ts) && !startsOp "::" (behind ts)
      let field ←
        if isPair then
          let member ← memberName
          operator ":"
          pure (FieldPattern.mk (some member) (← patternAlternatives n))
        else pure (FieldPattern.mk none (← pattern n))
      if ← isDone then return [some field]
      else
        operator ","
        return some field :: (← fieldPatterns n)

/-- A pattern that may have alternatives. -/
def patternAlternatives : Nat → Reader Pattern
  | 0 => stop
  | n + 1 => do
    let leading ← if ← sees (startsOp "||") then pure false else operator? "|"
    let first ← pattern n
    let others ← manyWhile
      (fun ts => startsOp "|" ts && !startsOp "||" ts && !startsOp "|=" ts)
      (do operator "|"; pattern n) n
    if leading || !others.isEmpty then return .alternatives leading (first :: others)
    else return first

end

end

end TypeFoundry.Source.Reader
