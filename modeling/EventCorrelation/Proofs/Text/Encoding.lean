import EventCorrelation.Text.Utf8

/-!
# Bytes of characters

The bytes of a text are those of its characters, one after the other. An ASCII character is one
byte, and the bytes of any other character stand apart from all ASCII characters.
-/

namespace EventCorrelation.Text

variable {symbol : Char} {byte : UInt8}

/-- The UTF-8 bytes of characters. -/
def encode (symbols : List Char) : List UInt8 :=
  symbols.flatMap String.utf8EncodeChar

@[simp]
theorem encode_nil : encode [] = [] := rfl

@[simp]
theorem encode_cons (symbol : Char) (rest : List Char) :
    encode (symbol :: rest) = String.utf8EncodeChar symbol ++ encode rest := rfl

@[simp]
theorem encode_append (front back : List Char) : encode (front ++ back) = encode front ++ encode back :=
  List.flatMap_append

theorem bytes_ofList (symbols : List Char) : bytes (String.ofList symbols) = encode symbols := by
  rw [bytes, String.toByteArray_ofList, List.utf8Encode, List.data_toByteArray]
  rfl

theorem bytes_eq_encode (text : String) : bytes text = encode text.toList := by
  rw [← bytes_ofList, String.ofList_toList]

theorem bytes_inj {text other : String} : bytes text = bytes other ↔ text = other := by
  refine ⟨fun same => ?_, congrArg bytes⟩
  have read := ofBytes?_bytes text
  rw [same, ofBytes?_bytes] at read
  exact (Option.some.inj read).symm

theorem utf8ByteSize_eq_length_encode (text : String) :
    text.utf8ByteSize = (encode text.toList).length := by
  rw [← bytes_eq_encode]
  rfl

/-- An ASCII character is one byte. -/
theorem encodeChar_of_ascii (ascii : symbol.toNat < 0x80) :
    String.utf8EncodeChar symbol = [UInt8.ofNat symbol.toNat] := by
  have small : symbol.val.toNat ≤ 0x7F := Nat.le_of_lt_succ ascii
  simp only [String.utf8EncodeChar, if_pos small]
  rfl

theorem encode_of_ascii {symbols : List Char} (ascii : ∀ symbol ∈ symbols, symbol.toNat < 0x80) :
    encode symbols = symbols.map fun symbol => UInt8.ofNat symbol.toNat := by
  induction symbols with
  | nil => rfl
  | cons symbol rest ih =>
    rw [encode_cons, encodeChar_of_ascii (ascii symbol (List.mem_cons_self ..)),
      ih fun other member => ascii other (List.mem_cons_of_mem _ member)]
    rfl

private theorem le_ofNat_add (value : Nat) {mark : Nat} (marked : 0x80 ≤ mark)
    (small : value + mark < 0x100) : 0x80 ≤ UInt8.ofNat (value + mark) := by
  have same : (UInt8.ofNat (value + mark)).toNat = value + mark := Nat.mod_eq_of_lt small
  rw [UInt8.le_iff_toNat_le, same]
  exact Nat.le_trans marked (Nat.le_add_left ..)

/-- No byte of any other character is an ASCII character. -/
theorem le_of_mem_encodeChar (notAscii : 0x80 ≤ symbol.toNat)
    (member : byte ∈ String.utf8EncodeChar symbol) : 0x80 ≤ byte := by
  have large : ¬ symbol.val.toNat ≤ 0x7F := Nat.not_le.mpr notAscii
  simp only [String.utf8EncodeChar, if_neg large] at member
  split at member
  · simp only [List.mem_cons, List.not_mem_nil, or_false] at member
    rcases member with rfl | rfl <;> exact le_ofNat_add _ (by decide) (by omega)
  · split at member <;> simp only [List.mem_cons, List.not_mem_nil, or_false] at member
    · rcases member with rfl | rfl | rfl <;> exact le_ofNat_add _ (by decide) (by omega)
    · rcases member with rfl | rfl | rfl | rfl <;> exact le_ofNat_add _ (by decide) (by omega)

end EventCorrelation.Text
