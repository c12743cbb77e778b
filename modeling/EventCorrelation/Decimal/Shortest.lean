import EventCorrelation.Decimal.Binary64

/-!
# Shortest decimal text

The fewest decimal digits that read back as the same floating point number, the nearest such
digits to its value, and the layouts in which they are written.
-/

namespace EventCorrelation.Decimal

/-- A decimal `digits · 10 ^ power`. -/
structure Scaled where
  digits : Nat
  power : Int
deriving DecidableEq

namespace Scaled

/-- Moves zeros at the end of the digits into the power. -/
def trimZeros : Nat → Scaled → Scaled
  | 0, scaled => scaled
  | fuel + 1, scaled =>
    if scaled.digits ≠ 0 ∧ scaled.digits % 10 = 0 then
      trimZeros fuel ⟨scaled.digits / 10, scaled.power + 1⟩
    else scaled

end Scaled

/-- The largest power of ten, as an exponent, that does not exceed a positive quotient. -/
def leadingPower (numerator denominator : Nat) : Int :=
  let estimate : Int := ((Nat.toDigits 10 numerator).length : Int) -
    (Nat.toDigits 10 denominator).length
  if denominator * Nat.pow 10 estimate.toNat ≤ numerator * Nat.pow 10 (-estimate).toNat then estimate
  else estimate - 1

/-- The nearer of the two neighbours of a number on the grid of multiples of `10 ^ power`, among
those that round to the number. Distances are measured in quarters of the number's last place;
the ends of the rounding interval belong to it if the significand is even. -/
def onGrid? (number : Binary64) (power : Int) : Option Nat :=
  let quarters : Int := number.exponent - 2
  let value := 4 * number.significand
  let above := 2
  let below :=
    if number.significand = Nat.pow 2 52 ∧ number.exponent > Binary64.leastExponent then 1 else 2
  let step := Nat.pow 10 power.toNat * Nat.pow 2 (-quarters).toNat
  let unit := Nat.pow 10 (-power).toNat * Nat.pow 2 quarters.toNat
  let reads (candidate : Nat) : Bool :=
    let place := candidate * step
    if number.significand % 2 = 0 then
      (value - below) * unit ≤ place && place ≤ (value + above) * unit
    else (value - below) * unit < place && place < (value + above) * unit
  let low := value * unit / step
  let lowDistance := value * unit - low * step
  let highDistance := (low + 1) * step - value * unit
  if reads low then
    if reads (low + 1) && (highDistance < lowDistance ||
        (highDistance == lowDistance && low % 2 == 1)) then some (low + 1)
    else some low
  else if reads (low + 1) then some (low + 1)
  else none

/-- The first grid with a hit, from one digit to seventeen. -/
def shortestFrom (number : Binary64) (leading : Int) : Nat → Scaled
  | 0 => ⟨0, 0⟩
  | remaining + 1 =>
    let power := leading - (16 - remaining : Nat)
    match onGrid? number power with
    | some digits => ⟨digits, power⟩
    | none => shortestFrom number leading remaining

/-- The shortest decimal that reads back as the absolute value of the number. -/
def shortest (number : Binary64) : Scaled :=
  if number.significand = 0 then ⟨0, 0⟩
  else
    let (top, bottom) := number.magnitude
    (shortestFrom number (leadingPower top bottom) 17).trimZeros 17

/-- How a number is written: positional notation with at least one place behind the point while
the decimal exponent lies between `lowest` and `highest`, scientific notation beyond, where
`plusSign` says whether a positive exponent shows its sign. -/
structure Layout where
  lowest : Int
  highest : Int
  plusSign : Bool

/-- The text of a number in a layout. -/
def write (layout : Layout) (number : Binary64) : List Char :=
  let scaled := shortest number
  let digits := Nat.toDigits 10 scaled.digits
  let exponent := scaled.power + digits.length - 1
  let zeros (count : Int) : List Char := List.replicate count.toNat '0'
  let sign : List Char := if number.negative then ['-'] else []
  if scaled.digits = 0 then sign ++ ['0', '.', '0']
  else if layout.lowest ≤ exponent ∧ exponent ≤ layout.highest then
    if 0 ≤ scaled.power then sign ++ digits ++ zeros scaled.power ++ ['.', '0']
    else if 0 ≤ exponent then
      sign ++ digits.take (exponent + 1).toNat ++ '.' :: digits.drop (exponent + 1).toNat
    else sign ++ '0' :: '.' :: zeros (-exponent - 1) ++ digits
  else
    let fraction := match digits.drop 1 with
      | [] => []
      | rest => '.' :: rest
    let exponentSign : List Char :=
      if exponent < 0 then ['-'] else if layout.plusSign then ['+'] else []
    sign ++ digits.take 1 ++ fraction ++ 'e' :: exponentSign ++
      Nat.toDigits 10 exponent.natAbs

end EventCorrelation.Decimal
