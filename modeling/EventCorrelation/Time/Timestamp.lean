import EventCorrelation.Time.Calendar
import EventCorrelation.Text.Blank

/-!
# Timestamps

Points in time and their text: date and time of day joined by a `T`, in coordinated universal
time. A timestamp in a leap second keeps the last ordinary second and counts its nanoseconds on.
-/

namespace EventCorrelation

structure Timestamp where
  /-- Seconds since 1970-01-01T00:00:00Z. -/
  seconds : Int
  /-- Below `10 ^ 9`, or below `2 · 10 ^ 9` in a leap second. -/
  nanos : Nat
deriving DecidableEq

namespace Timestamp

/-- Why a text is not a timestamp. -/
inductive Fault where
  | badCharacter
  | tooShort
  | outOfRange
  | impossible
  | trailing
deriving DecidableEq

namespace Fault

def message : Fault → String
  | .badCharacter => "input contains invalid characters"
  | .tooShort => "premature end of input"
  | .outOfRange => "input is out of range"
  | .impossible => "no possible date and time matching input"
  | .trailing => "trailing input"

end Fault

/-- Decimal digits with zeros in front up to a width. -/
def padded (width value : Nat) : List Char :=
  let digits := Nat.toDigits 10 value
  List.replicate (width - digits.length) '0' ++ digits

/-- Years from 0 to 9999 have four digits; others show their sign and at least four digits. -/
def yearText (year : Int) : List Char :=
  if 0 ≤ year ∧ year ≤ 9999 then padded 4 year.toNat
  else (if year < 0 then '-' else '+') :: padded 4 year.natAbs

/-- The fraction of a second in as few groups of three digits as it needs. -/
def fractionText (nanos : Nat) : List Char :=
  if nanos = 0 then []
  else if nanos % 1000000 = 0 then '.' :: padded 3 (nanos / 1000000)
  else if nanos % 1000 = 0 then '.' :: padded 6 (nanos / 1000)
  else '.' :: padded 9 nanos

/-- The text of a timestamp. -/
def text (time : Timestamp) : String :=
  let date := CivilDate.ofDays (time.seconds / 86400)
  let secondOfDay := (time.seconds % 86400).toNat
  let leap := if time.nanos < 1000000000 then 0 else 1
  String.ofList (yearText date.year ++ '-' :: padded 2 date.month ++ '-' :: padded 2 date.day ++
    'T' :: padded 2 (secondOfDay / 3600) ++ ':' :: padded 2 (secondOfDay / 60 % 60) ++
    ':' :: padded 2 (secondOfDay % 60 + leap) ++ fractionText (time.nanos - leap * 1000000000) ++
    ['Z'])

/-- A reader of the front of a text. -/
abbrev Reader (α : Type) := List Char → Except Fault (α × List Char)

/-- The value of a row of decimal digits. -/
def ofDigits (digits : List Char) : Nat :=
  digits.foldl (fun value digit => value * 10 + (digit.toNat - '0'.toNat)) 0

/-- Reads at least one digit and at most as many as the limit says; answers their count too. The
value has to fit a signed 64-bit word. -/
def readDigits (limit : Option Nat) : Reader (Nat × Nat) := fun text =>
  let row := text.takeWhile Char.isDigit
  let digits := match limit with
    | none => row
    | some limit => row.take limit
  match text, digits with
  | [], _ => .error .tooShort
  | _, [] => .error .badCharacter
  | _, digits =>
    if Nat.pow 2 63 ≤ ofDigits digits then .error .outOfRange
    else .ok ((ofDigits digits, digits.length), text.drop digits.length)

/-- Reads a number of up to two digits behind blanks, within bounds. -/
def readPart (least greatest : Nat) : Reader Nat := fun text => do
  let ((value, _), rest) ← readDigits (some 2) (Text.dropBlanks text)
  if value < least ∨ greatest < value then throw .outOfRange
  return (value, rest)

/-- Reads the year behind blanks: with a sign any number of digits, without one at most four. -/
def readYear : Reader Int := fun text => do
  let (year, rest) : Int × List Char ← match Text.dropBlanks text with
    | '-' :: text => do
      let ((value, _), rest) ← readDigits none text
      pure (-(value : Int), rest)
    | '+' :: text => do
      let ((value, _), rest) ← readDigits none text
      pure ((value : Int), rest)
    | text => do
      let ((value, _), rest) ← readDigits (some 4) text
      pure ((value : Int), rest)
  if year < -2147483648 ∨ 2147483648 ≤ year then throw .outOfRange
  return (year, rest)

/-- Passes over one character, with blanks allowed in front. -/
def readMark (mark : Char) : List Char → Except Fault (List Char) := fun text =>
  match Text.dropBlanks text with
  | [] => .error .tooShort
  | symbol :: rest => if symbol = mark then .ok rest else .error .badCharacter

/-- Reads a fraction of a second in nanoseconds; digits behind the ninth are dropped. -/
def readFraction : Reader Nat := fun text =>
  match text with
  | '.' :: text => do
    let ((value, count), rest) ← readDigits (some 9) text
    return (value * Nat.pow 10 (9 - count), rest.dropWhile Char.isDigit)
  | _ => .ok (0, text)

/-- Two characters, counted in bytes: a single character of more than one byte is a bad one. -/
def readPair : List Char → Except Fault (Char × Char × List Char)
  | first :: second :: rest => .ok (first, second, rest)
  | [first] => if first.utf8Size < 2 then .error .tooShort else .error .badCharacter
  | [] => .error .tooShort

/-- Reads the hours of an offset. -/
def readOffsetHours : Reader Nat := fun text => do
  let (first, second, rest) ← readPair text
  if first.isDigit ∧ second.isDigit then return (ofDigits [first, second], rest)
  throw .badCharacter

/-- Reads the minutes of an offset. -/
def readOffsetMinutes : Reader Nat := fun text => do
  let (first, second, rest) ← readPair text
  if first.isDigit ∧ second.isDigit then
    if '5' < first then throw .outOfRange
    return (ofDigits [first, second], rest)
  throw .badCharacter

/-- Reads the sign of an offset; the typographic minus sign counts as one. -/
def readSign : Reader Int := fun text =>
  match text with
  | [] => .error .tooShort
  | '+' :: rest => .ok (1, rest)
  | '-' :: rest => .ok (-1, rest)
  | '−' :: rest => .ok (-1, rest)
  | _ => .error .badCharacter

/-- Reads the offset from universal time in seconds: `Z` or `UTC` in any letter case, or a sign, two
digits of hours, any colons and blanks, and two digits of minutes. -/
def readOffset : Reader Int := fun text =>
  let text := Text.dropBlanks text
  if (text.take 3).map Char.toUpper = ['U', 'T', 'C'] then .ok (0, text.drop 3)
  else match text with
    | 'Z' :: rest => .ok (0, rest)
    | 'z' :: rest => .ok (0, rest)
    | _ => do
      let (sign, text) ← readSign text
      let (hours, text) ← readOffsetHours text
      let text := text.dropWhile fun symbol => symbol == ':' || Text.isBlank symbol
      let (minutes, text) ← readOffsetMinutes text
      return (sign * (hours * 3600 + minutes * 60), text)

/-- Passes over what joins the date and the time of day. -/
def readJoint : List Char → Except Fault (List Char)
  | [] => .error .tooShort
  | 'T' :: rest => .ok rest
  | 't' :: rest => .ok rest
  | ' ' :: rest => .ok rest
  | _ => .error .badCharacter

/-- Reads a timestamp. Blanks may stand in front of every part, and a `t` or a blank in place of
the `T`. -/
def parse (text : String) : Except Fault Timestamp := do
  let (year, text) ← readYear text.toList
  let text ← readMark '-' text
  let (month, text) ← readPart 1 12 text
  let text ← readMark '-' text
  let (day, text) ← readPart 1 31 text
  let text ← readJoint text
  let (hour, text) ← readPart 0 23 text
  let text ← readMark ':' text
  let (minute, text) ← readPart 0 59 text
  let text ← readMark ':' text
  let (second, text) ← readPart 0 60 text
  let (nanos, text) ← readFraction text
  let (offset, text) ← readOffset text
  if !(Text.dropBlanks text).isEmpty then throw .trailing
  let date : CivilDate := ⟨year, month, day⟩
  if !date.isValid then throw .outOfRange
  if offset.natAbs ≥ 86400 then throw .outOfRange
  let leap := if second = 60 then 1 else 0
  let seconds := date.toDays * 86400 + hour * 3600 + minute * 60 + (second - leap : Nat) - offset
  let universal := CivilDate.ofDays (seconds / 86400)
  if universal.year < CivilDate.yearRange.1 ∨ CivilDate.yearRange.2 < universal.year then
    throw .impossible
  return ⟨seconds, nanos + leap * 1000000000⟩

end Timestamp

end EventCorrelation
