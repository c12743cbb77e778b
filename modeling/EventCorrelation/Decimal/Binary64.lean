/-!
# Binary floating point numbers

Finite numbers with a 53-bit significand and the exponent range of double precision, and the
correctly rounded value of a quotient: the nearest such number, a tie going to the even
significand. Products and quotients of two numbers are rounded once, from the exact value.
-/

namespace EventCorrelation

/-- The number `± significand · 2 ^ exponent`. The exponent is the least that leaves the
significand below `2 ^ 53`, but not below `-1074`. -/
structure Binary64 where
  negative : Bool
  significand : Nat
  exponent : Int
deriving DecidableEq

namespace Binary64

/-- The exponent of the smallest positive number. -/
def leastExponent : Int := -1074

/-- The exponent of the largest finite number. -/
def greatestExponent : Int := 971

/-- Zero with the given sign. -/
def zero (negative : Bool) : Binary64 := ⟨negative, 0, leastExponent⟩

/-- A quotient rounded to the nearest integer, a tie to the even one. -/
def roundQuotient (numerator denominator : Nat) : Nat :=
  let whole := numerator / denominator
  let twice := 2 * (numerator % denominator)
  if twice < denominator then whole
  else if twice = denominator then whole + whole % 2
  else whole + 1

/-- The factors that turn a quotient into units of `2 ^ exponent`. -/
def inUnits (numerator denominator : Nat) (exponent : Int) : Nat × Nat :=
  (numerator * Nat.pow 2 (-exponent).toNat, denominator * Nat.pow 2 exponent.toNat)

/-- The number nearest to a quotient with the given sign, unless it is too large. -/
def ofQuotient? (negative : Bool) (numerator denominator : Nat) : Option Binary64 :=
  if numerator = 0 then some (zero negative)
  else
    let estimate : Int := (numerator.log2 : Int) - denominator.log2 - 53
    let start := max leastExponent estimate
    let (top, bottom) := inUnits numerator denominator start
    let exponent := if top / bottom < Nat.pow 2 53 then start else start + 1
    let (top, bottom) := inUnits numerator denominator exponent
    let rounded := roundQuotient top bottom
    let (significand, exponent) :=
      if rounded = Nat.pow 2 53 then (Nat.pow 2 52, exponent + 1) else (rounded, exponent)
    if exponent > greatestExponent then none else some ⟨negative, significand, exponent⟩

/-- The absolute value as a quotient of natural numbers. -/
def magnitude (number : Binary64) : Nat × Nat :=
  (number.significand * Nat.pow 2 number.exponent.toNat, Nat.pow 2 (-number.exponent).toNat)

/-- The rounded product of two absolute values, with the sign of the first. -/
def mul? (left right : Binary64) : Option Binary64 :=
  let (leftTop, leftBottom) := left.magnitude
  let (rightTop, rightBottom) := right.magnitude
  ofQuotient? left.negative (leftTop * rightTop) (leftBottom * rightBottom)

/-- The rounded quotient of two absolute values, with the sign of the first. -/
def div? (left right : Binary64) : Option Binary64 :=
  let (leftTop, leftBottom) := left.magnitude
  let (rightTop, rightBottom) := right.magnitude
  ofQuotient? left.negative (leftTop * rightBottom) (leftBottom * rightTop)

/-- The number nearest to a power of ten, unless it is too large. -/
def powerOfTen? (power : Nat) : Option Binary64 :=
  ofQuotient? false (Nat.pow 10 power) 1

end Binary64

end EventCorrelation
