/-!
# Bytes in hexadecimal digits

Two digits for each byte, the upper half first. Small letters are written, capital ones are read as
well.
-/

namespace EventCorrelation.Text

/-- Two hexadecimal digits for each byte. -/
def hex (bytes : List UInt8) : List Char :=
  bytes.flatMap fun byte =>
    [Nat.digitChar (byte.toNat / 16), Nat.digitChar (byte.toNat % 16)]

/-- The value of a hexadecimal digit. -/
def hexDigit? (digit : Char) : Option Nat :=
  (List.range 16).find? fun value => Nat.digitChar value == digit.toLower

/-- The bytes that pairs of digits stand for. -/
def ofHex? : List Char → Option (List UInt8)
  | [] => some []
  | upper :: lower :: rest => do
    let upper ← hexDigit? upper
    let lower ← hexDigit? lower
    let bytes ← ofHex? rest
    return UInt8.ofNat (16 * upper + lower) :: bytes
  | [_] => none

theorem hexDigit?_digitChar {value : Nat} (small : value < 16) :
    hexDigit? (Nat.digitChar value) = some value := by
  revert value
  decide

/-- Reading back the digits of bytes gives the bytes. -/
theorem ofHex?_hex (bytes : List UInt8) : ofHex? (hex bytes) = some bytes := by
  induction bytes with
  | nil => rfl
  | cons byte rest ih =>
      have small := byte.toNat_lt
      have upper : hexDigit? (Nat.digitChar (byte.toNat / 16)) = some (byte.toNat / 16) :=
        hexDigit?_digitChar (by omega)
      have lower : hexDigit? (Nat.digitChar (byte.toNat % 16)) = some (byte.toNat % 16) :=
        hexDigit?_digitChar (by omega)
      have whole : 16 * (byte.toNat / 16) + byte.toNat % 16 = byte.toNat := by omega
      simp only [hex, List.flatMap_cons, List.cons_append, List.nil_append, ofHex?, upper, lower,
        Option.bind_eq_bind, Option.bind_some, whole, UInt8.ofNat_toNat]
      rw [show ofHex? (List.flatMap _ rest) = some rest from ih]
      rfl

theorem hex_inj {bytes others : List UInt8} : hex bytes = hex others ↔ bytes = others := by
  refine ⟨fun same => ?_, congrArg hex⟩
  have read := ofHex?_hex bytes
  rw [same, ofHex?_hex] at read
  exact (Option.some.inj read).symm

end EventCorrelation.Text
