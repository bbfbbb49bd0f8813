import TypeFoundry.Text.Hexadecimal

/-!
# Module identities

Every compilation has an identity of 128 bits. It is written in 32 hexadecimal digits, either in one
piece, which is safe inside an identifier, or in five groups.
-/

set_option autoImplicit false

namespace TypeFoundry

/-- The identity of one compilation. -/
structure ModuleId where
  bits : BitVec 128
  deriving DecidableEq, Inhabited

namespace ModuleId

/-- The 32 digits of the identity in one piece. -/
def simple (id : ModuleId) : String := .ofList (Text.hexDigits 32 id.bits.toNat)

/-- The digits of the identity in groups of 8, 4, 4, 4 and 12. -/
def hyphenated (id : ModuleId) : String :=
  let ds := Text.hexDigits 32 id.bits.toNat
  .ofList (ds.take 8 ++ '-' :: (ds.drop 8).take 4 ++ '-' :: (ds.drop 12).take 4 ++
    '-' :: (ds.drop 16).take 4 ++ '-' :: ds.drop 20)

end ModuleId

end TypeFoundry
