/-!
# Reading bytes as text

UTF-8 in its strict form: shortest encodings only and no surrogates. A sequence that is not
well-formed is charged to the longest beginning of a well-formed one that it starts with, so that
decoding with replacement puts one replacement character for each such piece.
-/

set_option autoImplicit false

namespace TypeFoundry.Text

/-- One step of decoding. -/
inductive Utf8Piece where
  /-- A well-formed sequence of `width` bytes. -/
  | char (c : Char) (width : Nat)
  /-- Bytes that no well-formed sequence starts with. -/
  | bad (width : Nat)
  /-- The beginning of a sequence that the end of the input cuts off. -/
  | cut

/-- How many bytes a sequence has that starts with the byte; `0` if none does. -/
def utf8Width (a : UInt8) : Nat :=
  if a < 0x80 then 1
  else if 0xc2 ≤ a && a ≤ 0xdf then 2
  else if 0xe0 ≤ a && a ≤ 0xef then 3
  else if 0xf0 ≤ a && a ≤ 0xf4 then 4
  else 0

/-- Whether the byte continues a sequence. -/
def isTrail (b : UInt8) : Bool := 0x80 ≤ b && b ≤ 0xbf

/-- Whether `b` may be the second byte after `a`: no overlong form, no surrogate, nothing beyond the
last code point. -/
def isSecond (a b : UInt8) : Bool :=
  if a == 0xe0 then 0xa0 ≤ b && b ≤ 0xbf
  else if a == 0xed then 0x80 ≤ b && b ≤ 0x9f
  else if a == 0xf0 then 0x90 ≤ b && b ≤ 0xbf
  else if a == 0xf4 then 0x80 ≤ b && b ≤ 0x8f
  else isTrail b

/-- The bits that a trail byte adds to the code point. -/
def addTrail (n : Nat) (b : UInt8) : Nat := n * 64 + b.toNat % 64

/-- The pieces of the bytes, in order. -/
def utf8Pieces : List UInt8 → List Utf8Piece
  | [] => []
  | a :: as =>
    match utf8Width a with
    | 1 => .char (.ofNat a.toNat) 1 :: utf8Pieces as
    | 2 =>
      match as with
      | [] => [.cut]
      | b :: bs =>
        if isSecond a b then .char (.ofNat (addTrail (a.toNat % 32) b)) 2 :: utf8Pieces bs
        else .bad 1 :: utf8Pieces (b :: bs)
    | 3 =>
      match as with
      | [] => [.cut]
      | b :: bs =>
        if isSecond a b then
          match bs with
          | [] => [.cut]
          | c :: cs =>
            if isTrail c then
              .char (.ofNat (addTrail (addTrail (a.toNat % 16) b) c)) 3 :: utf8Pieces cs
            else .bad 2 :: utf8Pieces (c :: cs)
        else .bad 1 :: utf8Pieces (b :: bs)
    | 4 =>
      match as with
      | [] => [.cut]
      | b :: bs =>
        if isSecond a b then
          match bs with
          | [] => [.cut]
          | c :: cs =>
            if isTrail c then
              match cs with
              | [] => [.cut]
              | d :: ds =>
                if isTrail d then
                  .char (.ofNat (addTrail (addTrail (addTrail (a.toNat % 8) b) c) d)) 4
                    :: utf8Pieces ds
                else .bad 3 :: utf8Pieces (d :: ds)
            else .bad 2 :: utf8Pieces (c :: cs)
        else .bad 1 :: utf8Pieces (b :: bs)
    | _ => .bad 1 :: utf8Pieces as

/-- Why bytes are no text: the index of the first offending byte and how many bytes offend; without
a number the input ends inside a sequence. -/
structure Utf8Fault where
  index : Nat
  width : Option Nat
  deriving DecidableEq

/-- The text of the fault. -/
def Utf8Fault.message (f : Utf8Fault) : String :=
  match f.width with
  | some n => s!"invalid utf-8 sequence of {n} bytes from index {f.index}"
  | none => s!"incomplete utf-8 byte sequence from index {f.index}"

/-- The characters of the pieces, or the first fault; `index` bytes stand before them. -/
def charsOfPieces (index : Nat) : List Utf8Piece → Except Utf8Fault (List Char)
  | [] => .ok []
  | .char c width :: ps => (charsOfPieces (index + width) ps).map (c :: ·)
  | .bad width :: _ => .error ⟨index, some width⟩
  | .cut :: _ => .error ⟨index, none⟩

/-- The text that the bytes encode. -/
def decodeUtf8 (bytes : List UInt8) : Except Utf8Fault String :=
  (charsOfPieces 0 (utf8Pieces bytes)).map .ofList

/-- The text that the bytes encode, with a replacement character for every piece that is none. -/
def decodeLossy (bytes : List UInt8) : String :=
  .ofList <| (utf8Pieces bytes).map fun
    | .char c _ => c
    | .bad _ => '\ufffd'
    | .cut => '\ufffd'

end TypeFoundry.Text
