import TypeFoundry.Source.Ty
import TypeFoundry.Source.Keyword

/-!
# Readers

A reader takes a phrase from the front of a list of token trees. Where it cannot go on it stops, and
the stop says how many lexemes have not been read: counted from the end, places in a group and places
outside it are numbered alike, and the end of a group counts as its closing delimiter. The readers
here take single tokens, groups and lists; `fuel` bounds how often a loop runs.
-/

set_option autoImplicit false

namespace TypeFoundry.Source

/-- Where reading stopped. -/
structure Stop where
  unread : Nat
  deriving DecidableEq

/-- Takes a phrase from the front of token trees. -/
abbrev Reader := StateT Tokens (Except Stop)

namespace Reader

/-- Stops before the next token. -/
def stop {α : Type} : Reader α := fun ts => .error ⟨TokenTree.sizes ts⟩

/-- The tokens that are left. -/
def rest : Reader Tokens := get

/-- Whether the tokens that are left satisfy `p`. -/
def sees (p : Tokens → Bool) : Reader Bool := do return p (← rest)

/-- Runs the reader if it can be run, and takes nothing otherwise. -/
def attempt {α : Type} (r : Reader α) : Reader (Option α) := fun ts =>
  match r ts with
  | .ok (a, ts') => .ok (some a, ts')
  | .error _ => .ok (none, ts)

/-- Whether the reader could be run here; nothing is taken. -/
def ahead {α : Type} (r : Reader α) : Reader Bool := fun ts =>
  match r ts with
  | .ok _ => .ok (true, ts)
  | .error _ => .ok (false, ts)

/-- The phrase with the tokens that it takes. -/
def spelled {α : Type} (r : Reader α) : Reader (α × Tokens) := fun ts =>
  match r ts with
  | .ok (a, ts') => .ok ((a, ts.take (ts.length - ts'.length)), ts')
  | .error e => .error e

/-- Whether nothing is left. -/
def isDone : Reader Bool := sees (·.isEmpty)

/-! ## Looking at tokens -/

/-- Whether the next token is the word. -/
def startsWord (w : String) : Tokens → Bool
  | .word v :: _ => v == w
  | _ => false

/-- What follows the operator whose marks are given: all but the last have to touch the next. -/
def afterMarks : List Char → Tokens → Option Tokens
  | [], _ => none
  | [c], .mark d _ :: ts => if c == d then some ts else none
  | c :: cs, .mark d true :: ts => if c == d then afterMarks cs ts else none
  | _, _ => none

/-- Whether the operator comes next. -/
def startsOp (text : String) (ts : Tokens) : Bool := (afterMarks text.toList ts).isSome

/-- Whether a group with the delimiter comes next. -/
def startsGroup (d : Delimiter) : Tokens → Bool
  | .group e _ :: _ => d == e
  | _ => false

/-- Whether a literal comes next. -/
def startsLiteral : Tokens → Bool
  | .literal _ :: _ => true
  | .word "true" :: _ => true
  | .word "false" :: _ => true
  | _ => false

/-- Whether a lifetime comes next. -/
def startsLifetime : Tokens → Bool
  | .mark '\'' _ :: .word _ :: _ => true
  | _ => false

/-- Whether a word comes next that is not reserved. -/
def startsName : Tokens → Bool
  | .word w :: _ => !isReserved w
  | _ => false

/-- The tokens behind the next one; a lifetime counts as one. -/
def behind : Tokens → Tokens
  | .mark '\'' _ :: .word _ :: ts => ts
  | _ :: ts => ts
  | [] => []

/-! ## Taking tokens -/

/-- Takes the word. -/
def keyword (w : String) : Reader Unit := fun ts =>
  match ts with
  | .word v :: ts' => if v == w then .ok ((), ts') else stop ts
  | _ => stop ts

/-- Takes the word if it comes next, and says whether it did. -/
def keyword? (w : String) : Reader Bool := do
  if ← sees (startsWord w) then
    keyword w
    return true
  else return false

/-- Takes the operator. -/
def operator (text : String) : Reader Unit := fun ts =>
  match afterMarks text.toList ts with
  | some ts' => .ok ((), ts')
  | none => stop ts

/-- Takes the operator if it comes next, and says whether it did. -/
def operator? (text : String) : Reader Bool := do
  if ← sees (startsOp text) then
    operator text
    return true
  else return false

/-- Takes any word, reserved or not. -/
def anyWord : Reader String := fun ts =>
  match ts with
  | .word w :: ts' => .ok (w, ts')
  | _ => stop ts

/-- Takes a word that is not reserved. -/
def name : Reader String := fun ts =>
  match ts with
  | .word w :: ts' => if isReserved w then stop ts else .ok (w, ts')
  | _ => stop ts

/-- Takes a word that is not reserved, or one of the given words. -/
def nameOr (words : List String) : Reader String := fun ts =>
  match ts with
  | .word w :: ts' => if isReserved w && !words.contains w then stop ts else .ok (w, ts')
  | _ => stop ts

/-- Takes a lifetime. -/
def lifetime : Reader String := fun ts =>
  match ts with
  | .mark '\'' _ :: .word w :: ts' => .ok (w, ts')
  | _ => stop ts

/-- Takes a literal; the truth values are literals too. -/
def literal : Reader String := fun ts =>
  match ts with
  | .literal text :: ts' => .ok (text, ts')
  | .word w :: ts' => if w == "true" || w == "false" then .ok (w, ts') else stop ts
  | _ => stop ts

/-- Takes a group with the delimiter, all of whose tokens the reader has to take. -/
def group {α : Type} (d : Delimiter) (inner : Reader α) : Reader α := fun ts =>
  match ts with
  | .group e inside :: ts' =>
    if d = e then
      match inner inside with
      | .ok (a, []) => .ok (a, ts')
      | .ok (_, left) => .error ⟨TokenTree.sizes left + 1 + TokenTree.sizes ts'⟩
      | .error s => .error ⟨s.unread + 1 + TokenTree.sizes ts'⟩
    else stop ts
  | _ => stop ts

/-- Takes a group and answers its delimiter and its tokens. -/
def anyGroup : Reader (Delimiter × Tokens) := fun ts =>
  match ts with
  | .group d inside :: ts' => .ok ((d, inside), ts')
  | _ => stop ts

/-- Runs the reader on the next token tree alone, all of which it has to take. -/
def nextOnly {α : Type} (r : Reader α) : Reader α := fun ts =>
  match ts with
  | t :: ts' =>
    match r [t] with
    | .ok (a, []) => .ok (a, ts')
    | .ok (_, left) => .error ⟨TokenTree.sizes left + TokenTree.sizes ts'⟩
    | .error s => .error ⟨s.unread + TokenTree.sizes ts'⟩
  | [] => stop ts

/-- Takes everything that is left. -/
def everything : Reader Tokens := fun ts => .ok (ts, [])

/-! ## Lists -/

/-- Runs the reader as long as the tokens satisfy `p`. -/
def manyWhile {α : Type} (p : Tokens → Bool) (r : Reader α) : Nat → Reader (List α)
  | 0 => return []
  | fuel + 1 => do
    if ← sees p then
      let a ← r
      return a :: (← manyWhile p r fuel)
    else return []

/-- Runs the reader until nothing is left. -/
def many {α : Type} (r : Reader α) : Reader (List α) := fun ts =>
  manyWhile (fun ts => !ts.isEmpty) r (TokenTree.sizes ts + 1) ts

/-- Phrases with the operator between any two until nothing is left or `closes` holds, and whether
the operator also stands behind the last. -/
def listUntil {α : Type} (closes : Tokens → Bool) (sep : String) (r : Reader α) :
    Nat → Reader (List α × Bool)
  | 0 => return ([], false)
  | fuel + 1 => do
    let a ← r
    if ← sees closes then return ([a], false)
    else
      operator sep
      if ← sees closes then return ([a], true)
      else
        let (as, comma) ← listUntil closes sep r fuel
        return (a :: as, comma)

/-- Phrases with commas between them until nothing is left, and whether a comma ends the list. -/
def commaList {α : Type} (r : Reader α) : Reader (List α × Bool) := fun ts =>
  if ts.isEmpty then .ok (([], false), ts)
  else listUntil (·.isEmpty) "," r (TokenTree.sizes ts + 1) ts

/-- Phrases with commas between them up to a closing angle bracket. -/
def angleList {α : Type} (r : Reader α) : Reader (List α × Bool) := fun ts =>
  if startsOp ">" ts then .ok (([], false), ts)
  else listUntil (startsOp ">") "," r (TokenTree.sizes ts + 1) ts

/-- Phrases with plus signs between them, as many as there are, and at least one. -/
def plusList {α : Type} (r : Reader α) : Nat → Reader (List α)
  | 0 => return []
  | fuel + 1 => do
    let a ← r
    if ← operator? "+" then return a :: (← plusList r fuel)
    else return [a]

/-- Whether the reader takes all of the tokens, and what it reads. -/
def whole? {α : Type} (r : Reader α) (ts : Tokens) : Option α :=
  match r ts with
  | .ok (a, []) => some a
  | _ => none

end Reader

end TypeFoundry.Source
