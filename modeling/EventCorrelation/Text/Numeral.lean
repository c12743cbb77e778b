/-!
# Numerals of bounded numbers

A number in decimal digits, perhaps behind a plus sign, that has to stay below a limit. What is
found first in text order is the fault.
-/

namespace EventCorrelation.Text

inductive NumeralFault where
  | empty
  | foreignDigit
  | tooLarge
deriving DecidableEq

namespace NumeralFault

def message : NumeralFault → String
  | .empty => "cannot parse integer from empty string"
  | .foreignDigit => "invalid digit found in string"
  | .tooLarge => "number too large to fit in target type"

end NumeralFault

/-- Reads digits that continue a number. -/
def readDigits (limit value : Nat) : List Char → Except NumeralFault Nat
  | [] => .ok value
  | digit :: rest =>
    if !digit.isDigit then .error .foreignDigit
    else
      let value := 10 * value + (digit.toNat - '0'.toNat)
      if value < limit then readDigits limit value rest else .error .tooLarge

/-- Reads a numeral. -/
def readNumeral (limit : Nat) (text : List Char) : Except NumeralFault Nat :=
  match text with
  | [] => .error .empty
  | ['+'] => .error .foreignDigit
  | '+' :: digits => readDigits limit 0 digits
  | digits => readDigits limit 0 digits

end EventCorrelation.Text
