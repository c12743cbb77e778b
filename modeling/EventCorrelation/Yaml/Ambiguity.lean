import EventCorrelation.Decimal.Binary64

/-!
# Ambiguous texts

Texts that a YAML reader, finding them without quotes, would take for something else than a string:
nothing, a truth value, a whole number of at most 128 bits, a finite floating point number, one of
the words for infinity and for no number, or digits behind a leading zero, on which readers
disagree.
-/

namespace EventCorrelation.Yaml

/-- The value of a digit in any base up to 36. -/
def digitValue (symbol : Char) : Nat :=
  if symbol.isDigit then symbol.toNat - '0'.toNat
  else if symbol.isLower then symbol.toNat - 'a'.toNat + 10
  else if symbol.isUpper then symbol.toNat - 'A'.toNat + 10
  else 36

/-- The number that the digits spell in a base, if all of them are digits of it and there is at
least one. -/
def natural? (base : Nat) (digits : List Char) : Option Nat :=
  if !digits.isEmpty && digits.all (digitValue · < base) then
    some (digits.foldl (fun value digit => base * value + digitValue digit) 0)
  else none

/-- The rest of a text behind a start. -/
def behind? : List Char → List Char → Option (List Char)
  | [], rest => some rest
  | _ :: _, [] => none
  | expected :: start, symbol :: rest =>
    if symbol = expected then behind? start rest else none

/-- The text without the given sign in front. -/
def unsigned (sign : Char) (text : List Char) : List Char :=
  (behind? [sign] text).getD text

/-- Nothing but digits behind a leading zero and a possible sign. -/
def isZeroPadded (text : List Char) : Bool :=
  let digits := match text with
    | '-' :: rest => rest
    | '+' :: rest => rest
    | text => text
  match digits with
  | '0' :: rest => !rest.isEmpty && rest.all Char.isDigit
  | _ => false

/-- The digits of a whole number without its sign, by the mark of the base in front of them. -/
def readNatural? (text : List Char) : Option Nat :=
  match text with
  | '0' :: 'x' :: digits => natural? 16 digits
  | '0' :: 'o' :: digits => natural? 8 digits
  | '0' :: 'b' :: digits => natural? 2 digits
  | digits => if isZeroPadded digits then none else natural? 10 digits

/-- A whole number of at most 128 bits. -/
def isInteger (text : List Char) : Bool :=
  match text with
  | '-' :: rest => (readNatural? rest).any (· ≤ Nat.pow 2 127)
  | text => (readNatural? (unsigned '+' text)).any (· < Nat.pow 2 128)

/-- Decimal digits with a possible point among them, which must not stand alone: the digits, and
the number of those behind the point. -/
def readMantissa? (text : List Char) : Option (List Char × Nat) :=
  let whole := text.takeWhile Char.isDigit
  match text.dropWhile Char.isDigit with
  | [] => if whole.isEmpty then none else some (whole, 0)
  | '.' :: fraction =>
    if fraction.all Char.isDigit && !(whole.isEmpty && fraction.isEmpty) then
      some (whole ++ fraction, fraction.length)
    else none
  | _ => none

/-- A decimal exponent. -/
def readExponent? (text : List Char) : Option Int :=
  match text with
  | '-' :: rest => (natural? 10 rest).map fun value => -value
  | '+' :: rest => (natural? 10 rest).map fun value => value
  | rest => (natural? 10 rest).map fun value => value

/-- The number `digits · 10 ^ power` rounds to a finite one. Powers that leave no doubt are not
computed. -/
def isFinite (digits : List Char) (power : Int) : Bool :=
  let digits := digits.dropWhile (· == '0')
  let magnitude := digits.length + power
  if digits.isEmpty || magnitude < 300 then true
  else if 320 < magnitude then false
  else
    let value := (natural? 10 digits).getD 0
    (Binary64.ofQuotient? false (value * Nat.pow 10 power.toNat) (Nat.pow 10 (-power).toNat)).isSome

/-- A finite floating point number without its sign. -/
def isUnsignedFloat (text : List Char) : Bool :=
  let mantissa := text.takeWhile fun symbol => symbol != 'e' && symbol != 'E'
  match readMantissa? mantissa, text.drop mantissa.length with
  | none, _ => false
  | some (digits, places), [] => isFinite digits (-places)
  | some (digits, places), _ :: exponent => match readExponent? exponent with
    | none => false
    | some exponent => isFinite digits (exponent - places)

/-- A floating point number with a possible sign, or a word for infinity or no number. -/
def isFloat (text : List Char) : Bool :=
  let size := match text with
    | '-' :: rest => rest
    | '+' :: rest => rest
    | text => text
  isUnsignedFloat size || [".inf", ".Inf", ".INF"].contains (String.ofList size) ||
    [".nan", ".NaN", ".NAN"].contains (String.ofList text)

/-- The words for nothing and for the truth values. -/
def reservedWords : List String :=
  ["", "null", "Null", "NULL", "~", "true", "True", "TRUE", "false", "False", "FALSE"]

/-- A reader would take the text for something else than a string. -/
def isAmbiguous (text : String) : Bool :=
  reservedWords.contains text || isInteger text.toList || isFloat text.toList ||
    isZeroPadded text.toList

end EventCorrelation.Yaml
