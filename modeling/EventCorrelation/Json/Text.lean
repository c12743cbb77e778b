import EventCorrelation.Json.Fault
import EventCorrelation.Text.Utf8

/-!
# Strings in JSON texts

Escaping, and the two ways to pass over a string in a text: reading it, which wants every escape
to name a character and the whole to be UTF-8, and skipping it, which only looks for its end.
-/

namespace EventCorrelation.Json

/-- The hexadecimal digits in increasing order. -/
def hexDigits : List Char :=
  ['0', '1', '2', '3', '4', '5', '6', '7', '8', '9', 'a', 'b', 'c', 'd', 'e', 'f']

/-- A character as it stands between quotes: quotes, backslashes and control characters are
escaped, nothing else is. -/
def escape (symbol : Char) : List Char :=
  if symbol = '"' then ['\\', '"']
  else if symbol = '\\' then ['\\', '\\']
  else if symbol = '\x08' then ['\\', 'b']
  else if symbol = '\x0c' then ['\\', 'f']
  else if symbol = '\n' then ['\\', 'n']
  else if symbol = '\r' then ['\\', 'r']
  else if symbol = '\t' then ['\\', 't']
  else if symbol.toNat < 0x20 then
    ['\\', 'u', '0', '0', hexDigits.getD (symbol.toNat / 16) '0',
      hexDigits.getD (symbol.toNat % 16) '0']
  else [symbol]

/-- A string in quotes. -/
def quote (text : String) : List Char :=
  '"' :: text.toList.flatMap escape ++ ['"']

/-- The value of an ASCII hexadecimal digit. -/
def hexValue? (byte : UInt8) : Option Nat :=
  if 0x30 ≤ byte ∧ byte ≤ 0x39 then some (byte.toNat - 0x30)
  else if 0x41 ≤ byte ∧ byte ≤ 0x46 then some (byte.toNat - 0x41 + 10)
  else if 0x61 ≤ byte ∧ byte ≤ 0x66 then some (byte.toNat - 0x61 + 10)
  else none

/-- The value of four hexadecimal digits. -/
def hexUnit? (first second third fourth : UInt8) : Option Nat := do
  let first ← hexValue? first
  let second ← hexValue? second
  let third ← hexValue? third
  let fourth ← hexValue? fourth
  return ((first * 16 + second) * 16 + third) * 16 + fourth

/-- The byte that a one-letter escape stands for. -/
def simpleEscape? (letter : UInt8) : Option UInt8 :=
  match letter with
  | 0x22 => some 0x22
  | 0x5C => some 0x5C
  | 0x2F => some 0x2F
  | 0x62 => some 0x08
  | 0x66 => some 0x0C
  | 0x6E => some 0x0A
  | 0x72 => some 0x0D
  | 0x74 => some 0x09
  | _ => none

/-- The first unit of a surrogate pair. -/
def isHighSurrogate (unit : Nat) : Bool := 0xD800 ≤ unit && unit ≤ 0xDBFF

/-- The second unit of a surrogate pair. -/
def isLowSurrogate (unit : Nat) : Bool := 0xDC00 ≤ unit && unit ≤ 0xDFFF

/-- The UTF-8 bytes of a code point, behind bytes collected in reverse. -/
def pushPoint (point : Nat) (collected : List UInt8) : List UInt8 :=
  (String.utf8EncodeChar (Char.ofNat point)).reverseAux collected

/-- Reads the bytes of a string up to its closing quote, collecting them in reverse, and leaves
the rest of the text. -/
def readBytes (collected : List UInt8) : List UInt8 → Except Fault (List UInt8 × List UInt8)
  | [] => .error (.endOfText .string)
  | 0x22 :: rest => .ok (collected.reverse, rest)
  | 0x5C :: 0x75 :: first :: second :: third :: fourth :: rest =>
    match hexUnit? first second third fourth with
    | none => .error .badEscape
    | some unit =>
      if isLowSurrogate unit then .error .loneSurrogate
      else if !isHighSurrogate unit then readBytes (pushPoint unit collected) rest
      else match rest with
        | [] => .error (.endOfText .string)
        | [0x5C] => .error (.endOfText .string)
        | 0x5C :: 0x75 :: first :: second :: third :: fourth :: rest =>
          match hexUnit? first second third fourth with
          | none => .error .badEscape
          | some low =>
            if isLowSurrogate low then
              readBytes (pushPoint ((unit - 0xD800) * 0x400 + (low - 0xDC00) + 0x10000) collected)
                rest
            else .error .loneSurrogate
        | 0x5C :: 0x75 :: _ => .error (.endOfText .string)
        | _ => .error .unpairedSurrogate
  | 0x5C :: 0x75 :: _ => .error (.endOfText .string)
  | [0x5C] => .error (.endOfText .string)
  | 0x5C :: letter :: rest => match simpleEscape? letter with
    | none => .error .badEscape
    | some byte => readBytes (byte :: collected) rest
  | byte :: rest =>
    if byte < 0x20 then .error .controlCharacter else readBytes (byte :: collected) rest

/-- Reads a string behind its opening quote. That its bytes are UTF-8 is checked last. -/
def readString (text : List UInt8) : Except Fault (String × List UInt8) := do
  let (encoded, rest) ← readBytes [] text
  match Text.ofBytes? encoded with
  | none => .error .badCodePoint
  | some content => .ok (content, rest)

/-- Passes over a string behind its opening quote. -/
def skipString : List UInt8 → Except Fault (List UInt8)
  | [] => .error (.endOfText .string)
  | 0x22 :: rest => .ok rest
  | 0x5C :: 0x75 :: first :: second :: third :: fourth :: rest =>
    if (hexUnit? first second third fourth).isNone then .error .badEscape else skipString rest
  | 0x5C :: 0x75 :: _ => .error (.endOfText .string)
  | [0x5C] => .error (.endOfText .string)
  | 0x5C :: letter :: rest =>
    if (simpleEscape? letter).isNone then .error .badEscape else skipString rest
  | byte :: rest => if byte < 0x20 then .error .controlCharacter else skipString rest

end EventCorrelation.Json
