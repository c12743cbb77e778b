/-!
# Punycode

Names in ASCII that stand for other names: the ASCII characters of the name, a hyphen, and digits
that say which further characters belong where. The digits are cut into numbers of varying length; a
number counts how many pairs of a code point and a place come before the next insertion.
-/

namespace EventCorrelation.Host.Punycode

/-- The value of a digit: the small letters first, then the decimal digits. -/
def digit? (symbol : Char) : Option Nat :=
  if symbol.isLower then some (symbol.toNat - 'a'.toNat)
  else if symbol.isDigit then some (26 + (symbol.toNat - '0'.toNat))
  else none

/-- A digit below this value is the last one of its number. -/
def threshold (bias turn : Nat) : Nat :=
  if turn ≤ bias then 1 else min 26 (turn - bias)

/-- The bias that fits numbers of about this size. -/
def settle (size bias : Nat) : Nat :=
  if 455 < size then settle (size / 35) (bias + 36) else bias + 36 * size / (size + 38)
termination_by size
decreasing_by omega

/-- The bias behind a number. The first number is expected to be much larger than all others. -/
def adapt (number characters : Nat) (isFirst : Bool) : Nat :=
  let size := if isFirst then number / 700 else number / 2
  settle (size + size / characters) 0

/-- A text that digits complete. -/
structure Completion where
  text : List Char
  /-- The code point inserted last. -/
  point : Nat := 128
  /-- The place behind it. -/
  place : Nat := 0
  bias : Nat := 72
  /-- The number that is being read. -/
  number : Nat := 0
  weight : Nat := 1
  /-- How far the number has been read; 36 in front of its first digit. -/
  turn : Nat := 36

namespace Completion

/-- Inserts the character that a number stands for. -/
def insert? (state : Completion) (number : Nat) : Option Completion :=
  let places := state.text.length + 1
  let point := state.point + (state.place + number) / places
  let place := (state.place + number) % places
  if point.isValidChar then
    some {
      text := state.text.take place ++ Char.ofNat point :: state.text.drop place
      point, place := place + 1
      bias := adapt number places (state.place = 0) }
  else none

/-- Reads a digit. -/
def read? (state : Completion) (symbol : Char) : Option Completion := do
  let digit ← digit? symbol
  let number := state.number + digit * state.weight
  let threshold := threshold state.bias state.turn
  if digit < threshold then state.insert? number
  else
    some { state with
      number
      weight := state.weight * (36 - threshold)
      turn := state.turn + 36 }

end Completion

/-- The text in front of the last hyphen, and the digits. A hyphen in front of everything is none
that separates. -/
def split (encoded : List Char) : List Char × List Char :=
  let digits := (encoded.reverse.takeWhile (· != '-')).reverse
  match encoded.take (encoded.length - digits.length - 1) with
  | [] => ([], encoded)
  | basic => (basic, digits)

/-- The text that an encoding in small letters stands for. -/
def decode? (encoded : List Char) : Option (List Char) := do
  let (text, digits) := split encoded
  let state ← digits.foldlM Completion.read? { text }
  if state.turn = 36 then some state.text else none

end EventCorrelation.Host.Punycode
