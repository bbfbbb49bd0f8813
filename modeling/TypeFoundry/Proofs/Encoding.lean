import TypeFoundry.Text.Utf8

/-!
# Encoded text read back

The bytes that encode a character are one well-formed sequence in front of anything
(`utf8Pieces_encode`), so a text that is encoded is decoded as itself (`decodeUtf8_encode`).
-/

set_option autoImplicit false

namespace TypeFoundry.Text

/-- The bytes that encode the text. -/
def encodeUtf8 (s : String) : List UInt8 := s.toList.flatMap String.utf8EncodeChar

/-! ## Bytes -/

theorem toNat_ofNat {n : Nat} (h : n < 256) : (UInt8.ofNat n).toNat = n := by
  rw [UInt8.toNat_ofNat']
  exact Nat.mod_eq_of_lt h

theorem isTrail_ofNat (v : Nat) : isTrail (UInt8.ofNat (v % 64 + 128)) = true := by
  have htrail : ∀ k < 64, isTrail (UInt8.ofNat (k + 128)) = true := by decide
  exact htrail _ (Nat.mod_lt v (by decide))

theorem addTrail_ofNat (n v : Nat) : addTrail n (UInt8.ofNat (v % 64 + 128)) = n * 64 + v % 64 := by
  rw [addTrail, toNat_ofNat (by omega)]
  omega

theorem utf8Width_two {n : Nat} (h : 0xc2 ≤ n) (h' : n ≤ 0xdf) : utf8Width (UInt8.ofNat n) = 2 := by
  have hwidth : ∀ n < 256, 0xc2 ≤ n → n ≤ 0xdf → utf8Width (UInt8.ofNat n) = 2 := by
    decide +kernel
  exact hwidth n (by omega) h h'

theorem utf8Width_three {n : Nat} (h : 0xe0 ≤ n) (h' : n ≤ 0xef) : utf8Width (UInt8.ofNat n) = 3 := by
  have hwidth : ∀ n < 256, 0xe0 ≤ n → n ≤ 0xef → utf8Width (UInt8.ofNat n) = 3 := by
    decide +kernel
  exact hwidth n (by omega) h h'

theorem utf8Width_four {n : Nat} (h : 0xf0 ≤ n) (h' : n ≤ 0xf4) : utf8Width (UInt8.ofNat n) = 4 := by
  have hwidth : ∀ n < 256, 0xf0 ≤ n → n ≤ 0xf4 → utf8Width (UInt8.ofNat n) = 4 := by
    decide +kernel
  exact hwidth n (by omega) h h'

theorem utf8Width_one {n : Nat} (h : n < 0x80) : utf8Width (UInt8.ofNat n) = 1 := by
  have hwidth : ∀ n < 0x80, utf8Width (UInt8.ofNat n) = 1 := by decide +kernel
  exact hwidth n h

/-- The second byte `b + 128` fits behind the first byte `a`. -/
theorem isSecond_ofNat {a b : Nat} (ha : a < 256) (hb : b < 64) (he0 : a = 0xe0 → 32 ≤ b)
    (hed : a = 0xed → b < 32) (hf0 : a = 0xf0 → 16 ≤ b) (hf4 : a = 0xf4 → b < 16) :
    isSecond (UInt8.ofNat a) (UInt8.ofNat (b + 128)) = true := by
  have heq : ∀ k < 256, (UInt8.ofNat a == UInt8.ofNat k) = decide (a = k) := by
    intro k hk
    rw [Bool.eq_iff_iff, beq_iff_eq, decide_eq_true_eq, ← UInt8.toNat_inj, toNat_ofNat ha,
      toNat_ofNat hk]
  have hle : ∀ k < 256, (UInt8.ofNat k ≤ UInt8.ofNat (b + 128)) = (k ≤ b + 128) := by
    intro k hk
    rw [UInt8.le_iff_toNat_le, toNat_ofNat hk, toNat_ofNat (by omega)]
  have hge : ∀ k < 256, (UInt8.ofNat (b + 128) ≤ UInt8.ofNat k) = (b + 128 ≤ k) := by
    intro k hk
    rw [UInt8.le_iff_toNat_le, toNat_ofNat hk, toNat_ofNat (by omega)]
  have htrail : isTrail (UInt8.ofNat (b + 128)) = true := by
    have := isTrail_ofNat b
    rwa [Nat.mod_eq_of_lt hb] at this
  unfold isSecond
  simp only [show (0xe0 : UInt8) = UInt8.ofNat 0xe0 from rfl, show (0xed : UInt8) = UInt8.ofNat 0xed from rfl,
    show (0xf0 : UInt8) = UInt8.ofNat 0xf0 from rfl, show (0xf4 : UInt8) = UInt8.ofNat 0xf4 from rfl,
    show (0xa0 : UInt8) = UInt8.ofNat 0xa0 from rfl, show (0xbf : UInt8) = UInt8.ofNat 0xbf from rfl,
    show (0x80 : UInt8) = UInt8.ofNat 0x80 from rfl, show (0x9f : UInt8) = UInt8.ofNat 0x9f from rfl,
    show (0x90 : UInt8) = UInt8.ofNat 0x90 from rfl, show (0x8f : UInt8) = UInt8.ofNat 0x8f from rfl]
  rw [heq _ (by decide), heq _ (by decide), heq _ (by decide), heq _ (by decide)]
  simp only [hle _ (by decide : 0xa0 < 256), hle _ (by decide : 0x80 < 256),
    hle _ (by decide : 0x90 < 256), hge _ (by decide : 0xbf < 256), hge _ (by decide : 0x9f < 256),
    hge _ (by decide : 0x8f < 256)]
  by_cases h0 : a = 0xe0
  · have := he0 h0
    simp [h0]
    omega
  · by_cases h1 : a = 0xed
    · have := hed h1
      simp [h1]
      omega
    · by_cases h2 : a = 0xf0
      · have := hf0 h2
        simp [h2]
        omega
      · by_cases h3 : a = 0xf4
        · have := hf4 h3
          simp [h3]
          omega
        · simpa only [h0, h1, h2, h3, decide_false, Bool.false_eq_true, if_false] using htrail

/-! ## Sequences -/

section

variable {a b c d : UInt8} {rest : List UInt8}

theorem utf8Pieces_one (h : utf8Width a = 1) :
    utf8Pieces (a :: rest) = .char (.ofNat a.toNat) 1 :: utf8Pieces rest := by
  conv => lhs; unfold utf8Pieces
  simp only [h]

theorem utf8Pieces_two (h : utf8Width a = 2) (hb : isSecond a b = true) :
    utf8Pieces (a :: b :: rest) = .char (.ofNat (addTrail (a.toNat % 32) b)) 2 :: utf8Pieces rest := by
  conv => lhs; unfold utf8Pieces
  simp only [h, hb, if_true]

theorem utf8Pieces_three (h : utf8Width a = 3) (hb : isSecond a b = true) (hc : isTrail c = true) :
    utf8Pieces (a :: b :: c :: rest) =
      .char (.ofNat (addTrail (addTrail (a.toNat % 16) b) c)) 3 :: utf8Pieces rest := by
  conv => lhs; unfold utf8Pieces
  simp only [h, hb, hc, if_true]

theorem utf8Pieces_four (h : utf8Width a = 4) (hb : isSecond a b = true) (hc : isTrail c = true)
    (hd : isTrail d = true) :
    utf8Pieces (a :: b :: c :: d :: rest) =
      .char (.ofNat (addTrail (addTrail (addTrail (a.toNat % 8) b) c) d)) 4 :: utf8Pieces rest := by
  conv => lhs; unfold utf8Pieces
  simp only [h, hb, hc, hd, if_true]

end

/-! ## Characters -/

/-- **The bytes of a character** are one sequence. -/
theorem utf8Pieces_encode (c : Char) (rest : List UInt8) :
    utf8Pieces (String.utf8EncodeChar c ++ rest) =
      .char c (String.utf8EncodeChar c).length :: utf8Pieces rest := by
  have hvalid : c.val.toNat < 0xd800 ∨ 0xdfff < c.val.toNat ∧ c.val.toNat < 0x110000 := c.valid
  have hchar : Char.ofNat c.val.toNat = c := Char.ofNat_toNat c
  unfold String.utf8EncodeChar
  dsimp only
  generalize c.val.toNat = v at hvalid hchar
  by_cases h1 : v ≤ 0x7f
  · rw [if_pos h1]
    refine (utf8Pieces_one (utf8Width_one (by omega))).trans ?_
    rw [toNat_ofNat (by omega), hchar]
    rfl
  · rw [if_neg h1]
    by_cases h2 : v ≤ 0x7ff
    · rw [if_pos h2]
      have hsecond := @isSecond_ofNat (v / 64 % 32 + 0xc0) (v % 64) (by omega) (by omega) (by omega)
        (by omega) (by omega) (by omega)
      refine (utf8Pieces_two (utf8Width_two (by omega) (by omega)) hsecond).trans ?_
      have hv : (v / 64 % 32 + 0xc0) % 32 * 64 + v % 64 = v := by omega
      rw [toNat_ofNat (by omega), addTrail_ofNat, hv, hchar]
      rfl
    · rw [if_neg h2]
      by_cases h3 : v ≤ 0xffff
      · rw [if_pos h3]
        have hsecond := @isSecond_ofNat (v / 4096 % 16 + 0xe0) (v / 64 % 64) (by omega) (by omega)
          (by omega) (by omega) (by omega) (by omega)
        refine (utf8Pieces_three (utf8Width_three (by omega) (by omega)) hsecond
          (isTrail_ofNat v)).trans ?_
        have hv : ((v / 4096 % 16 + 0xe0) % 16 * 64 + v / 64 % 64) * 64 + v % 64 = v := by omega
        rw [toNat_ofNat (by omega), addTrail_ofNat, addTrail_ofNat, hv, hchar]
        rfl
      · rw [if_neg h3]
        have hsecond := @isSecond_ofNat (v / 262144 % 8 + 0xf0) (v / 4096 % 64) (by omega) (by omega)
          (by omega) (by omega) (by omega) (by omega)
        refine (utf8Pieces_four (utf8Width_four (by omega) (by omega)) hsecond
          (isTrail_ofNat _) (isTrail_ofNat v)).trans ?_
        have hv : (((v / 262144 % 8 + 0xf0) % 8 * 64 + v / 4096 % 64) * 64 + v / 64 % 64) * 64 + v % 64 = v := by
          omega
        rw [toNat_ofNat (by omega), addTrail_ofNat, addTrail_ofNat, addTrail_ofNat, hv, hchar]
        rfl

/-! ## Texts -/

theorem charsOfPieces_encode (cs : List Char) (index : Nat) :
    charsOfPieces index (utf8Pieces (cs.flatMap String.utf8EncodeChar)) = .ok cs := by
  induction cs generalizing index with
  | nil => rfl
  | cons c cs ih =>
    rw [List.flatMap_cons, utf8Pieces_encode, charsOfPieces, ih]
    rfl

/-- **A text that is encoded** is decoded as itself. -/
theorem decodeUtf8_encode (s : String) : decodeUtf8 (encodeUtf8 s) = .ok s := by
  rw [decodeUtf8, encodeUtf8, charsOfPieces_encode]
  exact congrArg Except.ok (String.ofList_toList)

end TypeFoundry.Text
