/-!
# Tokens

Source text is a list of token trees: words, punctuation marks, literals in their written form, and
groups between matching delimiters. A mark that is *joint* is followed immediately by another mark
and may form one operator with it. Lexemes are the same with delimiters as single pieces.
-/

set_option autoImplicit false

namespace TypeFoundry.Source

/-- The three pairs of delimiters. -/
inductive Delimiter where
  | paren
  | brace
  | bracket
  deriving DecidableEq

/-- The opening delimiter as written. -/
def Delimiter.opener : Delimiter → Char
  | .paren => '('
  | .brace => '{'
  | .bracket => '['

/-- The closing delimiter as written. -/
def Delimiter.closer : Delimiter → Char
  | .paren => ')'
  | .brace => '}'
  | .bracket => ']'

/-- One piece of source text. -/
inductive Lexeme where
  | word (name : String)
  | mark (c : Char) (joint : Bool)
  | literal (text : String)
  | opening (d : Delimiter)
  | closing (d : Delimiter)
  deriving DecidableEq

/-- Source text with its delimiters matched. A word keeps the `r#` of a raw identifier. -/
inductive TokenTree where
  | word (name : String)
  | mark (c : Char) (joint : Bool)
  | literal (text : String)
  | group (d : Delimiter) (inner : List TokenTree)

/-- Token trees in the order in which they stand. -/
abbrev Tokens := List TokenTree

namespace TokenTree

mutual

/-- Whether two token trees are the same, joints and written forms of literals included. -/
def same : TokenTree → TokenTree → Bool
  | word a, word b => a == b
  | mark c j, mark d k => c == d && j == k
  | literal a, literal b => a == b
  | group d xs, group e ys => d == e && sameAll xs ys
  | _, _ => false

/-- Whether two lists of token trees are the same. -/
def sameAll : List TokenTree → List TokenTree → Bool
  | [], [] => true
  | x :: xs, y :: ys => same x y && sameAll xs ys
  | _, _ => false

end

mutual

theorem same_iff : ∀ x y : TokenTree, same x y = true ↔ x = y
  | word a, y => by cases y <;> simp [same]
  | mark c j, y => by cases y <;> simp [same]
  | literal a, y => by cases y <;> simp [same]
  | group d xs, y => by cases y <;> simp [same, sameAll_iff xs]

theorem sameAll_iff : ∀ xs ys : List TokenTree, sameAll xs ys = true ↔ xs = ys
  | [], ys => by cases ys <;> simp [sameAll]
  | x :: xs, ys => by cases ys <;> simp [sameAll, same_iff x, sameAll_iff xs]

end

instance : DecidableEq TokenTree := fun x y => decidable_of_iff _ (same_iff x y)

mutual

/-- How many lexemes the token tree has. -/
def size : TokenTree → Nat
  | word _ => 1
  | mark _ _ => 1
  | literal _ => 1
  | group _ inner => sizes inner + 2

/-- How many lexemes the token trees have. -/
def sizes : List TokenTree → Nat
  | [] => 0
  | t :: ts => size t + sizes ts

end

theorem sizes_append (xs ys : List TokenTree) : sizes (xs ++ ys) = sizes xs + sizes ys := by
  induction xs with
  | nil => simp [sizes]
  | cons x xs ih => simp only [List.cons_append, sizes, ih]; omega

mutual

/-- The token tree as written, with its delimiters and nothing between its parts. -/
def spelled : TokenTree → String
  | word name => name
  | mark c _ => c.toString
  | literal text => text
  | group d inner => d.opener.toString ++ spelledAll inner ++ d.closer.toString

/-- The token trees as written, with nothing between them. -/
def spelledAll : List TokenTree → String
  | [] => ""
  | t :: ts => spelled t ++ spelledAll ts

end

end TokenTree

end TypeFoundry.Source
