/-!
# Texts as bytes

The UTF-8 bytes of a text, the text of those bytes that have one, and the place where other bytes
stop being a text.
-/

namespace EventCorrelation.Text

/-- The UTF-8 encoding of a text. -/
def bytes (text : String) : List UInt8 :=
  text.toByteArray.data.toList

/-- The text that the bytes encode, if they are well-formed UTF-8. -/
def ofBytes? (encoded : List UInt8) : Option String :=
  String.fromUTF8? ⟨encoded.toArray⟩

/-- The number of bytes that the characters take in UTF-8. -/
def byteLength (symbols : List Char) : Nat :=
  (symbols.map Char.utf8Size).foldr (· + ·) 0

/-- Where bytes stop being UTF-8: the index of the first byte that belongs to no character, and how
many bytes are wrong there, unless the bytes end within a character. -/
structure Utf8Fault where
  start : Nat
  length : Option Nat
deriving DecidableEq

namespace Utf8Fault

def message : Utf8Fault → String
  | ⟨start, some length⟩ =>
      "invalid utf-8 sequence of " ++ toString length ++ " bytes from index " ++ toString start
  | ⟨start, none⟩ => "incomplete utf-8 byte sequence from index " ++ toString start

end Utf8Fault

/-- The first and the last byte that may stand at a place within a character. -/
abbrev ByteRange := UInt8 × UInt8

/-- The bytes that may follow the first byte of a character, place by place, if it is one. The
narrow ranges leave out spellings that are too long, surrogates and code points beyond the last. -/
def followers? (first : UInt8) : Option (List ByteRange) :=
  let any : ByteRange := (0x80, 0xBF)
  if first < 0x80 then some []
  else if first < 0xC2 then none
  else if first < 0xE0 then some [any]
  else if first = 0xE0 then some [(0xA0, 0xBF), any]
  else if first = 0xED then some [(0x80, 0x9F), any]
  else if first < 0xF0 then some [any, any]
  else if first = 0xF0 then some [(0x90, 0xBF), any, any]
  else if first < 0xF4 then some [any, any, any]
  else if first = 0xF4 then some [(0x80, 0x8F), any, any]
  else none

/-- The first fault of bytes that continue a character: where it starts, how many of its bytes are
behind, and what may follow. -/
def findFault? (start seen : Nat) : List ByteRange → List UInt8 → Option Utf8Fault
  | [], [] => none
  | _ :: _, [] => some ⟨start, none⟩
  | (low, high) :: more, byte :: rest =>
    if low ≤ byte ∧ byte ≤ high then findFault? start (seen + 1) more rest
    else some ⟨start, some seen⟩
  | [], byte :: rest => match followers? byte with
    | none => some ⟨start + seen, some 1⟩
    | some more => findFault? (start + seen) 1 more rest

/-- The first fault of bytes that are to be UTF-8. -/
def utf8Fault? (encoded : List UInt8) : Option Utf8Fault :=
  findFault? 0 0 [] encoded

/-- The text of bytes in which each fault is replaced by one replacement character. There are no
more faults than bytes, so their number is enough fuel. -/
def ofBytesReplacing (fuel : Nat) (encoded : List UInt8) : String :=
  match fuel, utf8Fault? encoded with
  | fuel + 1, some fault =>
    (ofBytes? (encoded.take fault.start)).getD "" ++ "\uFFFD" ++ match fault.length with
      | none => ""
      | some length => ofBytesReplacing fuel (encoded.drop (fault.start + length))
  | _, _ => (ofBytes? encoded).getD ""

/-- The text of bytes, with a replacement character for each fault. -/
def ofBytesLossy (encoded : List UInt8) : String :=
  ofBytesReplacing encoded.length encoded

/-- Reading back the bytes of a text gives the text. -/
theorem ofBytes?_bytes (text : String) : ofBytes? (bytes text) = some text := by
  unfold ofBytes? bytes String.fromUTF8?
  rw [Array.toArray_toList]
  exact dif_pos text.isValidUTF8

end EventCorrelation.Text
