import EventCorrelation.Json.Spelling
import EventCorrelation.Proofs.Text.Encoding

/-!
# Reading strings

Whatever spells the characters of a string between its quotes is read as the bytes of these
characters, and a skipper finds the same end.
-/

namespace EventCorrelation.Json

variable {symbol : Char} {symbols : List Char} {text : List UInt8}

/-- A byte that stands for itself in a string. -/
structure Plain (byte : UInt8) : Prop where
  printable : 0x20 ≤ byte
  notQuote : byte ≠ 0x22
  notBackslash : byte ≠ 0x5C

theorem readBytes_plain {byte : UInt8} (plain : Plain byte) (collected rest : List UInt8) :
    readBytes collected (byte :: rest) = readBytes (byte :: collected) rest := by
  rw [readBytes]
  · rw [if_neg (by simpa using plain.printable)]
  · exact plain.notQuote
  all_goals
    intros
    exact plain.notBackslash ‹byte = 0x5C›

theorem skipString_plain {byte : UInt8} (plain : Plain byte) (rest : List UInt8) :
    skipString (byte :: rest) = skipString rest := by
  rw [skipString]
  · rw [if_neg (by simpa using plain.printable)]
  · exact plain.notQuote
  all_goals
    intros
    exact plain.notBackslash ‹byte = 0x5C›

/-- The bytes of a character that needs no escape stand for themselves. -/
theorem plain_of_mem_encodeChar (printable : 0x20 ≤ symbol.toNat) (notQuote : symbol ≠ '"')
    (notBackslash : symbol ≠ '\\') {byte : UInt8} (member : byte ∈ String.utf8EncodeChar symbol) :
    Plain byte := by
  by_cases ascii : symbol.toNat < 0x80
  · rw [Text.encodeChar_of_ascii ascii] at member
    have byteEq : byte = UInt8.ofNat symbol.toNat := List.mem_singleton.mp member
    have value : byte.toNat = symbol.toNat := by
      rw [byteEq]
      exact Nat.mod_eq_of_lt (Nat.lt_trans ascii (by decide))
    refine ⟨?_, fun same => notQuote ?_, fun same => notBackslash ?_⟩
    · rw [UInt8.le_iff_toNat_le, value]
      exact printable
    · rw [same] at value
      exact Char.toNat_inj.mp value.symm
    · rw [same] at value
      exact Char.toNat_inj.mp value.symm
  · have large := Text.le_of_mem_encodeChar (Nat.not_lt.mp ascii) member
    rw [UInt8.le_iff_toNat_le] at large
    refine ⟨?_, ?_, ?_⟩
    · rw [UInt8.le_iff_toNat_le]
      exact Nat.le_trans (by decide) large
    all_goals
      intro same
      rw [same] at large
      exact absurd large (by decide)

theorem readBytes_allPlain {bytes : List UInt8} (plain : ∀ byte ∈ bytes, Plain byte)
    (collected rest : List UInt8) :
    readBytes collected (bytes ++ rest) = readBytes (bytes.reverse ++ collected) rest := by
  induction bytes generalizing collected with
  | nil => rfl
  | cons byte bytes ih =>
    rw [List.cons_append, readBytes_plain (plain byte (List.mem_cons_self ..)),
      ih fun other member => plain other (List.mem_cons_of_mem _ member)]
    simp

theorem skipString_allPlain {bytes : List UInt8} (plain : ∀ byte ∈ bytes, Plain byte)
    (rest : List UInt8) : skipString (bytes ++ rest) = skipString rest := by
  induction bytes with
  | nil => rfl
  | cons byte bytes ih =>
    rw [List.cons_append, skipString_plain (plain byte (List.mem_cons_self ..)),
      ih fun other member => plain other (List.mem_cons_of_mem _ member)]

theorem readBytes_letter {letter byte : UInt8} (escapes : simpleEscape? letter = some byte)
    (collected rest : List UInt8) :
    readBytes collected (0x5C :: letter :: rest) = readBytes (byte :: collected) rest := by
  unfold simpleEscape? at escapes
  split at escapes
  all_goals cases escapes
  all_goals rfl

theorem skipString_letter {letter byte : UInt8} (escapes : simpleEscape? letter = some byte)
    (rest : List UInt8) : skipString (0x5C :: letter :: rest) = skipString rest := by
  unfold simpleEscape? at escapes
  split at escapes
  all_goals cases escapes
  all_goals rfl

/-- A one-letter escape stands for an ASCII character. -/
theorem encodeChar_of_simpleEscape {letter byte : UInt8}
    (escapes : simpleEscape? letter = some byte) :
    String.utf8EncodeChar (Char.ofNat byte.toNat) = [byte] := by
  unfold simpleEscape? at escapes
  split at escapes
  all_goals cases escapes
  all_goals rfl

theorem isLowSurrogate_of_isHighSurrogate {unit : Nat} (isHigh : isHighSurrogate unit = true) :
    isLowSurrogate unit = false := by
  simp only [isHighSurrogate, isLowSurrogate, Bool.and_eq_true, Bool.and_eq_false_iff,
    decide_eq_true_eq, decide_eq_false_iff_not] at *
  omega

theorem skipString_unit {first second third fourth : UInt8} {unit : Nat}
    (hex : hexUnit? first second third fourth = some unit) (rest : List UInt8) :
    skipString (0x5C :: 0x75 :: first :: second :: third :: fourth :: rest) = skipString rest := by
  rw [skipString, hex]
  rfl

theorem pushPoint_eq (point : Nat) (collected : List UInt8) :
    pushPoint point collected = (String.utf8EncodeChar (Char.ofNat point)).reverse ++ collected :=
  List.reverseAux_eq

/-- What spells a character is read as its bytes. -/
theorem readBytes_symbol (spelled : SpellsSymbol symbol text) (collected rest : List UInt8) :
    readBytes collected (text ++ rest) =
      readBytes ((String.utf8EncodeChar symbol).reverse ++ collected) rest := by
  cases spelled with
  | plain printable notQuote notBackslash =>
    exact readBytes_allPlain (fun byte => plain_of_mem_encodeChar printable notQuote notBackslash) ..
  | letter escapes =>
    rw [encodeChar_of_simpleEscape escapes]
    exact readBytes_letter escapes collected rest
  | unit hex notLow notHigh =>
    simp only [List.cons_append, List.nil_append]
    rw [readBytes, hex, ← pushPoint_eq]
    simp only [notLow, notHigh, Bool.false_eq_true, if_false, Bool.not_false, if_true]
  | pair hexHigh hexLow isHigh isLow =>
    have notLow := isLowSurrogate_of_isHighSurrogate isHigh
    simp only [List.cons_append, List.nil_append]
    rw [readBytes, hexHigh, ← pushPoint_eq]
    simp only [notLow, isHigh, hexLow, isLow, Bool.false_eq_true, if_false, Bool.not_true, if_true]

theorem skipString_symbol (spelled : SpellsSymbol symbol text) (rest : List UInt8) :
    skipString (text ++ rest) = skipString rest := by
  cases spelled with
  | plain printable notQuote notBackslash =>
    exact skipString_allPlain (fun byte => plain_of_mem_encodeChar printable notQuote notBackslash) _
  | letter escapes => exact skipString_letter escapes rest
  | unit hex notLow notHigh => exact skipString_unit hex rest
  | pair hexHigh hexLow isHigh isLow =>
    exact (skipString_unit hexHigh _).trans (skipString_unit hexLow rest)

theorem readBytes_text (spelled : SpellsText symbols text) (collected rest : List UInt8) :
    readBytes collected (text ++ 0x22 :: rest) =
      .ok (collected.reverse ++ Text.encode symbols, rest) := by
  induction spelled generalizing collected with
  | nil =>
    rw [Text.encode_nil, List.append_nil]
    rfl
  | cons head tail ih =>
    rw [List.append_assoc, readBytes_symbol head, ih, Text.encode_cons]
    simp

theorem skipString_text (spelled : SpellsText symbols text) (rest : List UInt8) :
    skipString (text ++ 0x22 :: rest) = .ok rest := by
  induction spelled with
  | nil => rfl
  | cons head tail ih => rw [List.append_assoc, skipString_symbol head, ih]

/-- What spells a string is read as the string. -/
theorem readString_text (spelled : SpellsText symbols text) (rest : List UInt8) :
    readString (text ++ 0x22 :: rest) = .ok (String.ofList symbols, rest) := by
  have content : Text.ofBytes? (Text.encode symbols) = some (String.ofList symbols) := by
    rw [← Text.bytes_ofList]
    exact Text.ofBytes?_bytes _
  rw [readString, readBytes_text spelled]
  simp only [List.reverse_nil, List.nil_append, bind, Except.bind, content]

theorem scanString_text (spelled : SpellsText symbols text) (rest : List UInt8) :
    scanString (text ++ 0x22 :: rest) = .ok (.ok (String.ofList symbols), rest) := by
  rw [scanString, skipString_text spelled, readString_text spelled]
  rfl

end EventCorrelation.Json
