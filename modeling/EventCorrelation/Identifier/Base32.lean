/-!
# Base 32 numerals

Fixed-width numerals over the digits and the capital letters without `I`, `L`, `O` and `U`, the
most significant digit first. Small letters are read as their capitals.
-/

namespace EventCorrelation.Base32

/-- The digits in increasing order. -/
def alphabet : List Char :=
  ['0', '1', '2', '3', '4', '5', '6', '7', '8', '9', 'A', 'B', 'C', 'D', 'E', 'F',
   'G', 'H', 'J', 'K', 'M', 'N', 'P', 'Q', 'R', 'S', 'T', 'V', 'W', 'X', 'Y', 'Z']

/-- The digit of a value below 32. -/
def digit (value : Nat) : Char :=
  alphabet.getD value '0'

/-- The value of a digit in either letter case. -/
def digitValue? (symbol : Char) : Option Nat :=
  alphabet.findIdx? (· == symbol.toUpper)

/-- The numeral of a value with exactly `width` digits; higher digits are dropped. -/
def encode : Nat → Nat → List Char
  | 0, _ => []
  | width + 1, value => encode width (value / 32) ++ [digit (value % 32)]

/-- The value of a numeral, if every character is a digit. -/
def decode? (symbols : List Char) : Option Nat :=
  symbols.foldlM (fun value symbol => (digitValue? symbol).map (value * 32 + ·)) 0

/-- A numeral has the width asked for. -/
@[simp] theorem length_encode (width value : Nat) : (encode width value).length = width := by
  induction width generalizing value with
  | zero => rfl
  | succ width ih => simp [encode, ih]

/-- Every value below 32 is read back from its digit. -/
theorem digitValue?_digit : ∀ value < 32, digitValue? (digit value) = some value := by
  decide

end EventCorrelation.Base32
