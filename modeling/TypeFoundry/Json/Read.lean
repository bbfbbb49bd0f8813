import TypeFoundry.Json

/-!
# Reading JSON

`Json.read?` reads one value with blanks around it. Numbers have no leading zeros, strings hold no
control characters, and nothing follows the value.
-/

set_option autoImplicit false

namespace TypeFoundry.Json

/-- Whether the character may stand between the parts of a value. -/
def isSpace (c : Char) : Bool := c == ' ' || c == '\t' || c == '\n' || c == '\r'

/-- What follows the blanks. -/
def skip (cs : List Char) : List Char := cs.dropWhile isSpace

theorem skip_of_not {c : Char} (h : isSpace c = false) (cs : List Char) : skip (c :: cs) = c :: cs := by
  simp [skip, h]

/-! ## Strings -/

/-- The value of a hexadecimal digit. -/
def hexValue? (c : Char) : Option Nat :=
  if '0' ≤ c && c ≤ '9' then some (c.toNat - '0'.toNat)
  else if 'a' ≤ c && c ≤ 'f' then some (c.toNat - 'a'.toNat + 10)
  else if 'A' ≤ c && c ≤ 'F' then some (c.toNat - 'A'.toNat + 10)
  else none

/-- The number that four hexadecimal digits denote. -/
def unit? (a b c d : Char) : Option Nat := do
  let a ← hexValue? a
  let b ← hexValue? b
  let c ← hexValue? c
  let d ← hexValue? d
  return ((a * 16 + b) * 16 + c) * 16 + d

/-- Whether the number is the first half of a pair that stands for one character. -/
def isHighHalf (n : Nat) : Bool := 0xd800 ≤ n && n < 0xdc00

/-- Whether the number is the second half of such a pair. -/
def isLowHalf (n : Nat) : Bool := 0xdc00 ≤ n && n < 0xe000

/-- The character that the two halves stand for. -/
def joinHalves (high low : Nat) : Char := .ofNat (0x10000 + (high - 0xd800) * 1024 + (low - 0xdc00))

/-- The character that one letter behind a backslash stands for. -/
def shortEscape? : Char → Option Char
  | '"' => some '"'
  | '\\' => some '\\'
  | '/' => some '/'
  | 'b' => some '\x08'
  | 'f' => some '\x0c'
  | 'n' => some '\n'
  | 'r' => some '\r'
  | 't' => some '\t'
  | _ => none

/-- The characters of a string without text are those of its rest without text. -/
def push (c : Char) : Option (List Char) × List Char → Option (List Char) × List Char
  | (text, rest) => (text.map (c :: ·), rest)

/-- Reads a string behind its opening quote. -/
def stringBody : List Char → Option (Option (List Char) × List Char)
  | [] => none
  | '"' :: rest => some (some [], rest)
  | '\\' :: 'u' :: a :: b :: c :: d :: '\\' :: 'u' :: e :: f :: g :: h :: rest => do
    let first ← unit? a b c d
    let second ← unit? e f g h
    if isHighHalf first && isLowHalf second then
      (stringBody rest).map (push (joinHalves first second))
    else
      let behind ← stringBody ('\\' :: 'u' :: e :: f :: g :: h :: rest)
      if isHighHalf first || isLowHalf first then return (none, behind.2)
      else return push (.ofNat first) behind
  | '\\' :: 'u' :: a :: b :: c :: d :: rest => do
    let unit ← unit? a b c d
    let behind ← stringBody rest
    if isHighHalf unit || isLowHalf unit then return (none, behind.2)
    else return push (.ofNat unit) behind
  | '\\' :: e :: rest => do
    let c ← shortEscape? e
    let behind ← stringBody rest
    return push c behind
  | c :: rest => if c.toNat < 0x20 then none else (stringBody rest).map (push c)

/-- What follows a letter behind a backslash is read on. -/
theorem stringBody_short {e c : Char} {tail : List Char} {r : Option (List Char) × List Char}
    (hshort : shortEscape? e = some c) (h : stringBody tail = some r) :
    stringBody ('\\' :: e :: tail) = some (push c r) := by
  have hu : e ≠ 'u' := by
    rintro rfl
    cases hshort
  rw [stringBody, hshort, h]
  · rfl
  · rintro a b c d f g k l rest rfl
    exact absurd rfl hu
  · rintro a b c d rest rfl
    exact absurd rfl hu

/-- The text of the characters. -/
def textOf (r : Option (List Char) × List Char) : Option String × List Char :=
  (r.1.map .ofList, r.2)

/-! ## Numbers -/

/-- The digits in front and what follows them, if there are any. -/
def digitRun? (cs : List Char) : Option (List Char × List Char) :=
  match cs.takeWhile Char.isDigit with
  | [] => none
  | ds => some (ds, cs.dropWhile Char.isDigit)

/-- The whole part of a number: a zero alone, or digits that do not start with one. -/
def wholePart? (cs : List Char) : Option (List Char × List Char) :=
  match cs with
  | '0' :: rest => if rest.head?.any Char.isDigit then none else some (['0'], rest)
  | _ => digitRun? cs

/-- The point with the digits behind it; without a point there is nothing. -/
def fraction? (cs : List Char) : Option (List Char × List Char) :=
  match cs with
  | '.' :: rest => (digitRun? rest).map fun (ds, behind) => ('.' :: ds, behind)
  | _ => some ([], cs)

/-- The exponent; without its letter there is nothing. -/
def exponent? (cs : List Char) : Option (List Char × List Char) :=
  let digitsBehind (front : List Char) (rest : List Char) : Option (List Char × List Char) :=
    (digitRun? rest).map fun (ds, behind) => (front ++ ds, behind)
  match cs with
  | e :: rest =>
    if e == 'e' || e == 'E' then
      match rest with
      | '+' :: rest => digitsBehind [e, '+'] rest
      | '-' :: rest => digitsBehind [e, '-'] rest
      | _ => digitsBehind [e] rest
    else some ([], cs)
  | [] => some ([], [])

/-- Reads a number. -/
def number? (cs : List Char) : Option (Json × List Char) := do
  let (sign, cs) := match cs with
    | '-' :: rest => (['-'], rest)
    | _ => ([], cs)
  let (whole, cs) ← wholePart? cs
  let (fraction, cs) ← fraction? cs
  let (exponent, cs) ← exponent? cs
  if sign.isEmpty && fraction.isEmpty && exponent.isEmpty then
    return (.natural (whole.foldl (fun n d => n * 10 + (d.toNat - '0'.toNat)) 0), cs)
  else return (.number (.ofList (sign ++ whole ++ fraction ++ exponent)), cs)

/-! ## Values -/

mutual

/-- Reads a value; `fuel` bounds the depth of the nesting. -/
def value? (fuel : Nat) (cs : List Char) : Option (Json × List Char) :=
  match fuel with
  | 0 => none
  | fuel + 1 =>
    match skip cs with
    | 'n' :: 'u' :: 'l' :: 'l' :: rest => some (.null, rest)
    | 't' :: 'r' :: 'u' :: 'e' :: rest => some (.bool true, rest)
    | 'f' :: 'a' :: 'l' :: 's' :: 'e' :: rest => some (.bool false, rest)
    | '"' :: rest => (stringBody rest).map fun r => (.string (textOf r).1, r.2)
    | '[' :: rest =>
      match skip rest with
      | ']' :: rest => some (.array [], rest)
      | rest => (items? fuel rest).map fun (items, behind) => (.array items, behind)
    | '{' :: rest =>
      match skip rest with
      | '}' :: rest => some (.object [], rest)
      | rest => (members? fuel rest).map fun (members, behind) => (.object members, behind)
    | cs => number? cs
termination_by fuel

/-- Reads the items of a list and its closing bracket. -/
def items? (fuel : Nat) (cs : List Char) : Option (List Json × List Char) :=
  match fuel with
  | 0 => none
  | fuel + 1 => do
    let (item, behind) ← value? fuel cs
    match skip behind with
    | ',' :: rest =>
      let (items, behind) ← items? fuel rest
      return (item :: items, behind)
    | ']' :: rest => return ([item], rest)
    | _ => none
termination_by fuel

/-- Reads the members of an object and its closing brace. -/
def members? (fuel : Nat) (cs : List Char) : Option (List (Option String × Json) × List Char) :=
  match fuel with
  | 0 => none
  | fuel + 1 =>
    match skip cs with
    | '"' :: rest => do
      let (key, behind) ← (stringBody rest).map textOf
      match skip behind with
      | ':' :: rest =>
        let (value, behind) ← value? fuel rest
        match skip behind with
        | ',' :: rest =>
          let (members, behind) ← members? fuel rest
          return ((key, value) :: members, behind)
        | '}' :: rest => return ([(key, value)], rest)
        | _ => none
      | _ => none
    | _ => none
termination_by fuel

end

/-- Where no other value starts, a number is read. -/
theorem value?_number {c : Char} (hspace : isSpace c = false) (hc : c ∉ ['n', 't', 'f', '"', '[', '{'])
    (fuel : Nat) (cs : List Char) : value? (fuel + 1) (c :: cs) = number? (c :: cs) := by
  rw [value?, skip_of_not hspace]
  split <;> simp_all

/-- A list has no item in front of its closing bracket. -/
theorem items?_closing (fuel : Nat) (rest : List Char) : items? fuel (']' :: rest) = none := by
  rcases fuel with _ | _ | fuel
  · rw [items?]
  · rw [items?, value?]
    rfl
  · rw [items?, value?_number (by decide) (by decide)]
    rfl

/-- An object has no member in front of its closing brace. -/
theorem members?_closing (fuel : Nat) (rest : List Char) : members? fuel ('}' :: rest) = none := by
  cases fuel with
  | zero => rw [members?]
  | succ fuel =>
    rw [members?, skip_of_not (by decide)]
    rfl

/-- The value that the text is. -/
def read? (s : String) : Option Json :=
  let cs := s.toList
  match value? (cs.length + 1) cs with
  | some (value, rest) => if (skip rest).isEmpty then some value else none
  | none => none

end TypeFoundry.Json
