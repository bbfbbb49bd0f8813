import TypeFoundry.Text.LetterCase

/-!
# Snake case

A name is cut into words at every character that is neither a letter nor a number, after a small
letter before a capital, and before the last capital of a run that a small letter follows. The
words are written in small letters with an underscore between them.
-/

set_option autoImplicit false

namespace TypeFoundry.Text

/-- The case of the letters read since the last cut. -/
inductive WordCase where
  | none
  | small
  | capital
  deriving DecidableEq

/-- The case after one more character; a character without case keeps it. -/
def WordCase.after (k : WordCase) (c : Char) : WordCase :=
  if isLowercase c then .small else if isUppercase c then .capital else k

/-- The words of a run of letters and numbers; `word` holds what has been read of the current word. -/
def cutWords (k : WordCase) (word : List Char) : List Char → List (List Char)
  | [] => []
  | [c] => [word ++ [c]]
  | c :: d :: cs =>
    if k.after c = .small && isUppercase d then
      (word ++ [c]) :: cutWords .none [] (d :: cs)
    else if k = .capital && isUppercase c && isLowercase d then
      word :: cutWords .none [c] (d :: cs)
    else
      cutWords (k.after c) (word ++ [c]) (d :: cs)

/-- A word in small letters; a capital sigma at its end becomes the final sigma. -/
def lowerWord : List Char → List Char
  | [] => []
  | ['Σ'] => ['ς']
  | c :: cs => lower c ++ lowerWord cs

/-- The name in snake case. -/
def snakeCase (s : String) : String :=
  let runs := s.toList.splitBy fun a b => isAlphanumeric a == isAlphanumeric b
  let words := (runs.filter (·.all isAlphanumeric)).flatMap (cutWords .none [])
  "_".intercalate (words.map fun w => .ofList (lowerWord w))

end TypeFoundry.Text
