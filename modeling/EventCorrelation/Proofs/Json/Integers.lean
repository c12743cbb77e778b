import EventCorrelation.Json.Spelling
import EventCorrelation.Proofs.Text.Encoding
import EventCorrelation.Proofs.Text.Numbers
import Mathlib.Algebra.Group.Nat.Defs

/-!
# Reading integers

The printed form of an integer that fits 64 bits is read as that integer, whatever stands behind
it, as long as it does not continue the number.
-/

namespace EventCorrelation.Json

open Literal

/-- The digits of a number as values, the leading one first. -/
def digitsOf (number : Nat) : List Nat :=
  (Nat.toDigits 10 number).map fun symbol => symbol.toNat - '0'.toNat

/-- The bytes of digits. -/
def digitBytes (digits : List Nat) : List UInt8 :=
  digits.map fun digit => UInt8.ofNat (0x30 + digit)

/-- A text that does not continue a number in front of it. -/
def EndsNumber (text : List UInt8) : Prop :=
  ∀ byte ∈ text.head?, digit? byte = none ∧ byte ≠ 0x2E ∧ byte ≠ 0x65 ∧ byte ≠ 0x45

theorem lt_of_mem_digitsOf {number digit : Nat} (member : digit ∈ digitsOf number) : digit < 10 := by
  obtain ⟨symbol, symbolMember, rfl⟩ := List.mem_map.mp member
  have bounds := Text.toNat_of_mem_toDigits symbolMember
  have zero : '0'.toNat = 0x30 := rfl
  omega

theorem digitsOf_ne_nil (number : Nat) : digitsOf number ≠ [] := by
  intro empty
  exact Nat.toDigits_ne_nil (List.map_eq_nil_iff.mp empty)

theorem digitBytes_digitsOf (number : Nat) :
    digitBytes (digitsOf number) = Text.encode (Nat.toDigits 10 number) := by
  have ascii : ∀ symbol ∈ Nat.toDigits 10 number, symbol.toNat < 0x80 :=
    fun symbol member => Nat.lt_of_le_of_lt (Text.toNat_of_mem_toDigits member).2 (by decide)
  rw [Text.encode_of_ascii ascii, digitBytes, digitsOf, List.map_map]
  refine List.map_congr_left fun symbol member => ?_
  have bounds := Text.toNat_of_mem_toDigits member
  have zero : '0'.toNat = 0x30 := rfl
  have same : 0x30 + (symbol.toNat - '0'.toNat) = symbol.toNat := by omega
  exact congrArg UInt8.ofNat same

/-- Only zero starts with the digit zero. -/
theorem head_digitsOf {number : Nat} (positive : 0 < number) (rest : List Nat) :
    digitsOf number ≠ 0 :: rest := by
  induction number using Nat.strongRecOn generalizing rest with
  | ind number ih =>
    intro starts
    by_cases small : number < 10
    · rw [digitsOf, Nat.toDigits_of_lt_base small, List.map_singleton,
        Nat.toNat_digitChar_of_lt_ten small] at starts
      have zero : '0'.toNat = 48 := rfl
      have value := (List.cons.inj starts).1
      omega
    · have splits : digitsOf number = digitsOf (number / 10) ++
          [(Nat.digitChar (number % 10)).toNat - '0'.toNat] := by
        rw [digitsOf, Nat.toDigits_of_base_le (by decide) (Nat.not_lt.mp small), List.map_append]
        rfl
      cases leading : digitsOf (number / 10) with
      | nil => exact digitsOf_ne_nil _ leading
      | cons first more =>
        rw [splits, leading] at starts
        have firstEq : first = 0 := (List.cons.inj starts).1
        rw [firstEq] at leading
        exact ih (number / 10) (by omega) (by omega) more leading

theorem ofDigits_digitsOf (number : Nat) : ofDigits (digitsOf number) = number := by
  have value := Nat.ofDigitChars_toDigits (b := 10) (n := number) (by decide) (by decide)
  rw [Nat.ofDigitChars_eq_foldl] at value
  rw [ofDigits, digitsOf, List.foldl_map]
  simpa only [Nat.mul_comm] using value

theorem digit?_ofNat {digit : Nat} (small : digit < 10) :
    digit? (UInt8.ofNat (0x30 + digit)) = some digit := by
  have all : ∀ digit < 10, digit? (UInt8.ofNat (0x30 + digit)) = some digit := by decide
  exact all digit small

/-- All digits are taken, and nothing behind them. -/
theorem spanDigits_digitBytes {digits : List Nat} (small : ∀ digit ∈ digits, digit < 10)
    {rest : List UInt8} (ends : EndsNumber rest) :
    spanDigits (digitBytes digits ++ rest) = (digits, rest) := by
  induction digits with
  | nil =>
    cases rest with
    | nil => rfl
    | cons byte rest =>
      have noDigit := (ends byte rfl).1
      change spanDigits (byte :: rest) = ([], byte :: rest)
      rw [spanDigits, noDigit]
  | cons digit digits ih =>
    have digitSmall := small digit (List.mem_cons_self ..)
    have restSmall : ∀ other ∈ digits, other < 10 :=
      fun other member => small other (List.mem_cons_of_mem _ member)
    change spanDigits (UInt8.ofNat (0x30 + digit) :: (digitBytes digits ++ rest)) = _
    rw [spanDigits, digit?_ofNat digitSmall]
    simp only [ih restSmall]

theorem readTail_of_ends {negative pointed : Bool} {whole fraction : List Nat} {rest : List UInt8}
    (ends : EndsNumber rest) :
    readTail negative pointed whole fraction rest =
      .ok (⟨negative, whole, fraction, none, pointed⟩, rest) := by
  unfold readTail
  split
  · exact absurd rfl (ends _ rfl).2.2.1
  · exact absurd rfl (ends _ rfl).2.2.2
  · rfl

theorem readFraction_of_ends {negative : Bool} {whole : List Nat} {rest : List UInt8}
    (ends : EndsNumber rest) :
    Literal.readFraction negative whole rest = .ok (⟨negative, whole, [], none, false⟩, rest) := by
  unfold Literal.readFraction
  split
  · exact absurd rfl (ends _ rfl).2.1
  · exact readTail_of_ends ends

/-- The digits of a number are read as its whole part. -/
theorem readUnsigned_digitsOf (negative : Bool) (number : Nat) {rest : List UInt8}
    (ends : EndsNumber rest) :
    readUnsigned negative (digitBytes (digitsOf number) ++ rest) =
      .ok (⟨negative, digitsOf number, [], none, false⟩, rest) := by
  rw [readUnsigned, spanDigits_digitBytes (fun digit => lt_of_mem_digitsOf) ends]
  split
  · next empty => exact absurd (Prod.mk.inj empty).1 (digitsOf_ne_nil number)
  · next second more _ leading =>
    have digitsEq := (Prod.mk.inj leading).1
    by_cases positive : 0 < number
    · exact absurd digitsEq (head_digitsOf positive _)
    · rw [Nat.eq_zero_of_not_pos positive] at digitsEq
      cases digitsEq
  · next whole behind _ _ digitsEq =>
    cases digitsEq
    exact readFraction_of_ends ends

theorem le_foldl_digits (digits : List Nat) (value : Nat) :
    value ≤ digits.foldl (fun value digit => value * 10 + digit) value := by
  induction digits generalizing value with
  | nil => exact Nat.le_refl value
  | cons digit digits ih => exact Nat.le_trans (by omega) (ih (value * 10 + digit))

/-- Digits whose value fits 64 bits are all taken. -/
theorem takeWhole_eq {digits : List Nat} {significand : Nat}
    (fits : digits.foldl (fun value digit => value * 10 + digit) significand < wordLimit) :
    takeWhole significand 0 digits =
      (digits.foldl (fun value digit => value * 10 + digit) significand, 0) := by
  induction digits generalizing significand with
  | nil => rfl
  | cons digit digits ih =>
    have small : significand * 10 + digit < wordLimit := 
      Nat.lt_of_le_of_lt (le_foldl_digits digits _) fits
    rw [takeWhole, if_pos small]
    exact ih fits

theorem value_digitsOf (negative : Bool) {number : Nat} (fits : number < 2 ^ 64)
    (signed : negative = true → 0 < number ∧ number ≤ 2 ^ 63) :
    Literal.value ⟨negative, digitsOf number, [], none, false⟩ =
      .ok (.integer (if negative then -number else number)) := by
  have all : takeWhole 0 0 (digitsOf number) = (number, 0) := by
    have value : (digitsOf number).foldl (fun value digit => value * 10 + digit) 0 = number :=
      ofDigits_digitsOf number
    rw [takeWhole_eq (by rw [value]; exact fits), value]
  rw [Literal.value, all]
  cases negative with
  | false => rfl
  | true =>
    obtain ⟨positive, least⟩ := signed rfl
    have inRange : ¬ (number = 0 ∨ Nat.pow 2 63 < number) := by
      have power : Nat.pow 2 63 = 2 ^ 63 := rfl
      omega
    simp [inRange]

theorem integerBytes_natCast (number : Nat) :
    integerBytes number = digitBytes (digitsOf number) := by
  rw [digitBytes_digitsOf, integerBytes, Text.bytes_eq_encode]
  exact congrArg Text.encode Nat.toList_repr

theorem integerBytes_neg {number : Nat} (positive : 0 < number) :
    integerBytes (-number) = 0x2D :: digitBytes (digitsOf number) := by
  obtain ⟨before, rfl⟩ := Nat.exists_eq_add_one.mpr positive
  have printed : (toString (-((before + 1 : Nat) : Int))).toList =
      '-' :: Nat.toDigits 10 (before + 1) := by
    change ("-" ++ (before + 1).repr).toList = _
    rw [String.toList_append, Nat.toList_repr]
    rfl
  rw [digitBytes_digitsOf, integerBytes, Text.bytes_eq_encode, printed]
  rfl

/-- The first digit of a number. -/
theorem digitBytes_digitsOf_eq_cons (number : Nat) :
    ∃ digit < 10, ∃ more,
      digitBytes (digitsOf number) = UInt8.ofNat (0x30 + digit) :: more := by
  cases digits : digitsOf number with
  | nil => exact absurd digits (digitsOf_ne_nil number)
  | cons digit rest =>
    have member : digit ∈ digitsOf number := by
      rw [digits]
      exact List.mem_cons_self ..
    exact ⟨digit, lt_of_mem_digitsOf member, _, rfl⟩

/-- A printed integer starts with a digit or a minus sign. -/
theorem integerBytes_eq_cons (value : Int) :
    ∃ first more, integerBytes value = first :: more ∧
      (first = 0x2D ∨ (digit? first).isSome = true) := by
  rcases Int.eq_nat_or_neg value with ⟨number, rfl | rfl⟩
  · obtain ⟨digit, small, more, bytes⟩ := digitBytes_digitsOf_eq_cons number
    refine ⟨_, more, (integerBytes_natCast number).trans bytes, .inr ?_⟩
    rw [digit?_ofNat small]
    rfl
  · by_cases positive : 0 < number
    · exact ⟨_, _, integerBytes_neg positive, .inl rfl⟩
    · rw [Nat.eq_zero_of_not_pos positive]
      exact ⟨0x30, [], rfl, .inr rfl⟩

theorem read_digitBytes (number : Nat) {rest : List UInt8} (ends : EndsNumber rest) :
    Literal.read (digitBytes (digitsOf number) ++ rest) =
      .ok (⟨false, digitsOf number, [], none, false⟩, rest) := by
  obtain ⟨digit, small, more, bytes⟩ := digitBytes_digitsOf_eq_cons number
  have unsigned := readUnsigned_digitsOf false number ends
  have noSign : ∀ digit < 10, UInt8.ofNat (0x30 + digit) ≠ 0x2D := by decide
  rw [bytes, List.cons_append] at unsigned ⊢
  unfold Literal.read
  split
  · next same => exact absurd (List.cons.inj same).1 (noSign digit small)
  · exact unsigned

/-- The printed form of an integer of 64 bits is read as the integer. -/
theorem read_integerBytes {value : Int} (least : -9223372036854775808 ≤ value)
    (greatest : value < 18446744073709551616) {rest : List UInt8} (ends : EndsNumber rest) :
    ∃ literal, Literal.read (integerBytes value ++ rest) = .ok (literal, rest) ∧
      literal.value = .ok (.integer value) := by
  by_cases sign : 0 ≤ value
  · obtain ⟨number, rfl⟩ := Int.eq_ofNat_of_zero_le sign
    refine ⟨_, ?_, value_digitsOf false (by omega) (fun negative => nomatch negative)⟩
    rw [integerBytes_natCast]
    exact read_digitBytes number ends
  · obtain ⟨number, rfl⟩ := Int.exists_eq_neg_ofNat (Int.le_of_lt (Int.not_le.mp sign))
    have positive : 0 < number := by omega
    refine ⟨_, ?_, value_digitsOf true (by omega) (fun _ => ⟨positive, by omega⟩)⟩
    rw [integerBytes_neg positive]
    exact readUnsigned_digitsOf true number ends

end EventCorrelation.Json
