import EventCorrelation.Text.Hex

/-!
# Bytes written with percent signs

A percent sign and two hexadecimal digits stand for one byte. A percent sign in front of anything
else stands for itself, as does every other byte.
-/

namespace EventCorrelation.Text

/-- The byte that two hexadecimal digits stand for. -/
def hexByte? (upper lower : UInt8) : Option UInt8 := do
  let upper ← hexDigit? (Char.ofNat upper.toNat)
  let lower ← hexDigit? (Char.ofNat lower.toNat)
  return UInt8.ofNat (16 * upper + lower)

/-- The bytes that a text stands for. -/
def percentDecode : List UInt8 → List UInt8
  | 0x25 :: upper :: lower :: rest => match hexByte? upper lower with
    | some byte => byte :: percentDecode rest
    | none => 0x25 :: percentDecode (upper :: lower :: rest)
  | byte :: rest => byte :: percentDecode rest
  | [] => []

end EventCorrelation.Text
