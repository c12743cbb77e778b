import EventCorrelation.Json.Basic
import EventCorrelation.Json.Fault

/-!
# Number literals

A number as it is spelled in a JSON text, and the number it stands for. A literal without fraction
and exponent that fits 64 bits is an integer. Any other is computed in double precision: as many
digits as fit 64 bits are taken as one integer, which is then scaled by a power of ten.
-/

namespace EventCorrelation.Json

/-- The parts of a number literal, digits as values with the leading one first. -/
structure Literal where
  negative : Bool
  whole : List Nat
  fraction : List Nat
  /-- The sign and the digits of the exponent. -/
  exponent : Option (Bool × List Nat)
  /-- Whether there is a decimal point. -/
  pointed : Bool
deriving DecidableEq

/-- Two faults for one place: the one met by a reader that wants the value and the one met by a
reader that skips it. -/
structure FaultPair where
  reading : Fault
  skipping : Fault
deriving DecidableEq

namespace Literal

/-- The value of an ASCII decimal digit. -/
def digit? (byte : UInt8) : Option Nat :=
  if 0x30 ≤ byte ∧ byte ≤ 0x39 then some (byte.toNat - 0x30) else none

/-- The digits in front of a text, and the rest. -/
def spanDigits : List UInt8 → List Nat × List UInt8
  | [] => ([], [])
  | byte :: rest => match digit? byte with
    | none => ([], byte :: rest)
    | some digit =>
      let (digits, rest) := spanDigits rest
      (digit :: digits, rest)

/-- Where at least one digit has to follow: its absence at the end of the text is taken for an
unfinished value by a reader, but for a bad number by a skipper. -/
def missingDigit (rest : List UInt8) : FaultPair :=
  if rest.isEmpty then ⟨.endOfText .value, .badNumber⟩ else ⟨.badNumber, .badNumber⟩

/-- Reads the exponent behind the letter `e`. -/
def readExponent (text : List UInt8) :
    Except FaultPair ((Bool × List Nat) × List UInt8) :=
  let (negative, text) : Bool × List UInt8 := match text with
    | 0x2D :: rest => (true, rest)
    | 0x2B :: rest => (false, rest)
    | _ => (false, text)
  match spanDigits text with
  | ([], rest) => .error (missingDigit rest)
  | (digits, rest) => .ok ((negative, digits), rest)

/-- Reads what may follow the fraction. -/
def readTail (negative pointed : Bool) (whole fraction : List Nat) (text : List UInt8) :
    Except FaultPair (Literal × List UInt8) :=
  match text with
  | 0x65 :: rest | 0x45 :: rest => do
    let (exponent, rest) ← readExponent rest
    return (⟨negative, whole, fraction, some exponent, pointed⟩, rest)
  | _ => .ok (⟨negative, whole, fraction, none, pointed⟩, text)

/-- Reads what may follow the whole part. -/
def readFraction (negative : Bool) (whole : List Nat) (text : List UInt8) :
    Except FaultPair (Literal × List UInt8) :=
  match text with
  | 0x2E :: rest => match spanDigits rest with
    | ([], rest) => .error (missingDigit rest)
    | (fraction, rest) => readTail negative true whole fraction rest
  | _ => readTail negative false whole [] text

/-- Reads a literal behind its sign. A zero in front of another digit is refused. -/
def readUnsigned (negative : Bool) (text : List UInt8) :
    Except FaultPair (Literal × List UInt8) :=
  match spanDigits text with
  | ([], rest) => .error (missingDigit rest)
  | (0 :: _ :: _, _) => .error ⟨.badNumber, .badNumber⟩
  | (whole, rest) => readFraction negative whole rest

/-- Reads the literal in front of a text. -/
def read (text : List UInt8) : Except FaultPair (Literal × List UInt8) :=
  match text with
  | 0x2D :: rest => readUnsigned true rest
  | _ => readUnsigned false text

/-- The bound of the integer part of the computation. -/
def wordLimit : Nat := Nat.pow 2 64

/-- Takes digits of the whole part while the integer fits 64 bits; each further digit only counts
as a power of ten. -/
def takeWhole (significand : Nat) (exponent : Int) : List Nat → Nat × Int
  | [] => (significand, exponent)
  | digit :: rest =>
    if significand * 10 + digit < wordLimit then takeWhole (significand * 10 + digit) exponent rest
    else (significand, exponent + (rest.length + 1))

/-- Takes digits of the fraction while the integer fits 64 bits; the others are dropped. -/
def takeFraction (significand : Nat) (exponent : Int) : List Nat → Nat × Int
  | [] => (significand, exponent)
  | digit :: rest =>
    if significand * 10 + digit < wordLimit then
      takeFraction (significand * 10 + digit) (exponent - 1) rest
    else (significand, exponent)

/-- The value of a row of decimal digits. -/
def ofDigits (digits : List Nat) : Nat :=
  digits.foldl (fun value digit => value * 10 + digit) 0

/-- The largest power of ten that is scaled by in one step. -/
def scaleLimit : Nat := 308

/-- Multiplies an integer by a power of ten in double precision. An exponent below the limit is
taken in two steps; a result beyond the largest finite number is out of range. -/
def scale (negative : Bool) (significand : Nat) (exponent : Int) : Except Fault Binary64 :=
  let rounded := Binary64.ofQuotient? negative significand 1
  let divide (dividend : Binary64) (power : Nat) : Option Binary64 :=
    (Binary64.powerOfTen? power).bind dividend.div?
  let scaled :=
    if significand = 0 then some (Binary64.zero negative)
    else if (scaleLimit : Int) < exponent then none
    else if 0 ≤ exponent then
      rounded.bind fun integer => (Binary64.powerOfTen? exponent.toNat).bind integer.mul?
    else if -(scaleLimit : Int) ≤ exponent then
      rounded.bind fun integer => divide integer (-exponent).toNat
    else if -2 * (scaleLimit : Int) ≤ exponent then
      rounded.bind fun integer => (divide integer scaleLimit).bind fun part =>
        divide part (-exponent - scaleLimit).toNat
    else some (Binary64.zero negative)
  match scaled with
  | none => .error .numberOutOfRange
  | some result => .ok result

/-- The number that a literal stands for. A negative integer below `-2 ^ 63` and the negative
zero are floating point numbers. -/
def value (literal : Literal) : Except Fault JsonNumber :=
  let (significand, exponent) := takeWhole 0 0 literal.whole
  if literal.pointed || literal.exponent.isSome || exponent ≠ 0 then
    let (significand, exponent) := takeFraction significand exponent literal.fraction
    let shift : Int := match literal.exponent with
      | none => 0
      | some (negative, digits) =>
        if negative then -(ofDigits digits : Int) else ofDigits digits
    (scale literal.negative significand (exponent + shift)).map .binary
  else if !literal.negative then .ok (.integer significand)
  else if significand = 0 ∨ Nat.pow 2 63 < significand then
    (scale true significand 0).map .binary
  else .ok (.integer (-significand))

end Literal

end EventCorrelation.Json
