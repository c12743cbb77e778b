import EventCorrelation.Text.Hex
import EventCorrelation.Text.Pieces

/-!
# IP addresses

The texts that stand for IP addresses. In version 4 a strict text has four decimal octets. A loose
one has at most four parts, each in decimal, octal or hexadecimal digits, and the last part stands
for all the bytes that are left. In version 6 a double colon stands for groups that are left out.
-/

namespace EventCorrelation.Host

/-- A decimal number from 0 to 255 without leading zeros. -/
def isOctet (digits : List Char) : Bool :=
  !digits.isEmpty && digits.all Char.isDigit && (digits.length == 1 || digits.head? != some '0') &&
    digits.length ≤ 3 && (String.ofList digits).toNat?.any (· ≤ 255)

/-- A strict IP address of version 4. -/
def isIpv4 (text : List Char) : Bool :=
  let octets := Text.pieces '.' text
  octets.length == 4 && octets.all isOctet

/-- A hexadecimal group of an IP address of version 6. -/
def isGroup (digits : List Char) : Bool :=
  1 ≤ digits.length && digits.length ≤ 4 && digits.all fun digit => (Text.hexDigit? digit).isSome

/-- The number of groups that a part of an IP address of version 6 stands for. Only the last group
of the whole may have the form of version 4, and it counts twice. -/
def countGroups? (mayEndDotted : Bool) (part : List Char) : Option Nat :=
  if part.isEmpty then some 0
  else
    let groups := Text.pieces ':' part
    let count := groups.length
    let last := groups.getLast?.getD []
    if groups.dropLast.all isGroup then
      if isGroup last then some count
      else if mayEndDotted && isIpv4 last then some (count + 1)
      else none
    else none

/-- The text in front of the first double colon and the text behind it. -/
def splitDoubleColon : List Char → Option (List Char × List Char)
  | ':' :: ':' :: rest => some ([], rest)
  | symbol :: rest => (splitDoubleColon rest).map fun parts => (symbol :: parts.1, parts.2)
  | [] => none

/-- An IP address of version 6. -/
def isIpv6 (text : List Char) : Bool :=
  match splitDoubleColon text with
  | none => countGroups? true text == some 8
  | some (front, back) => match countGroups? false front, countGroups? true back with
    | some first, some second => first + second ≤ 7
    | _, _ => false

/-- The number that digits of a base stand for. -/
def digitsValue? (base : Nat) (digits : List Char) : Option Nat :=
  digits.foldlM (fun value digit => do
    let digit ← Text.hexDigit? digit
    if digit < base then some (base * value + digit) else none) 0

/-- The number that a part of a loose IP address stands for: hexadecimal behind `0x`, octal behind
another zero. -/
def partValue? : List Char → Option Nat
  | [] => none
  | '0' :: 'x' :: digits => digitsValue? 16 digits
  | '0' :: digits => digitsValue? 8 digits
  | digits => digitsValue? 10 digits

/-- The labels of a name without the empty one behind a final dot. -/
def withoutRoot (labels : List (List Char)) : List (List Char) :=
  if labels.getLast? = some [] then labels.dropLast else labels

/-- The last label reads as a number, so that the name has to be an IP address. -/
def endsInNumber (labels : List (List Char)) : Bool :=
  (withoutRoot labels).getLast?.any fun label =>
    (!label.isEmpty && label.all Char.isDigit) || (partValue? label).isSome

/-- A loose IP address of version 4. -/
def isLooseIpv4 (labels : List (List Char)) : Bool :=
  match (withoutRoot labels).mapM partValue? with
  | some numbers =>
    numbers.length ≤ 4 && numbers.dropLast.all (· < 256) &&
      numbers.getLast?.any (· < Nat.pow 256 (5 - numbers.length))
  | none => false

/-- An IP address of version 4, in strict form, or of version 6. -/
def isIp (text : List Char) : Bool :=
  isIpv4 text || isIpv6 text

end EventCorrelation.Host
