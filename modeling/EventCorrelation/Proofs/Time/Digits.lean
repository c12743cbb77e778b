import EventCorrelation.Proofs.Text.Numbers
import EventCorrelation.Time.Timestamp
import Mathlib.Algebra.Group.Nat.Defs

/-!
# Digits of dates and times

Numbers padded with zeros are read back as the numbers they are.
-/

namespace EventCorrelation.Timestamp

variable {digits rest : List Char} {width value : Nat}

theorem ofDigits_eq_ofDigitChars (digits : List Char) :
    ofDigits digits = Nat.ofDigitChars 10 digits 0 := by
  rw [ofDigits, Nat.ofDigitChars_eq_foldl]
  simp only [Nat.mul_comm]

theorem ofDigits_padded (width value : Nat) : ofDigits (padded width value) = value := by
  rw [ofDigits_eq_ofDigitChars, padded, Nat.ofDigitChars_append, Nat.ofDigitChars_replicate_zero,
    Nat.mul_zero, Nat.ofDigitChars_toDigits (by decide) (by decide)]

theorem isDigit_of_mem_padded {symbol : Char} (member : symbol ∈ padded width value) :
    symbol.isDigit = true := by
  rcases List.mem_append.mp member with zero | digit
  · rw [List.eq_of_mem_replicate zero]
    rfl
  · exact Nat.isDigit_of_mem_toDigits (by decide) (by decide) digit

/-- A number with no more digits than the width is padded to the width. -/
theorem length_padded (positive : 0 < width) (fits : value < 10 ^ width) :
    (padded width value).length = width := by
  have short : (Nat.toDigits 10 value).length ≤ width :=
    (Nat.length_toDigits_le_iff (by decide) positive).mpr fits
  rw [padded, List.length_append, List.length_replicate]
  omega

theorem padded_ne_nil (width value : Nat) : padded width value ≠ [] :=
  List.append_ne_nil_of_right_ne_nil _ Nat.toDigits_ne_nil

/-- What stands in front of digits is not dropped with them. -/
theorem takeWhile_digits (isDigit : ∀ symbol ∈ digits, symbol.isDigit = true) (rest : List Char) :
    (digits ++ rest).takeWhile Char.isDigit = digits ++ rest.takeWhile Char.isDigit :=
  List.takeWhile_append_of_pos isDigit

theorem not_isBlank_of_isDigit {symbol : Char} (isDigit : symbol.isDigit = true) :
    Text.isBlank symbol = false := by
  have bounds := Text.toNat_of_isDigit isDigit
  simp only [Text.isBlank, Bool.or_eq_false_iff, Bool.and_eq_false_iff, decide_eq_false_iff_not,
    beq_eq_false_iff_ne]
  omega

/-- No blanks are dropped in front of digits. -/
theorem dropBlanks_digits (isDigit : ∀ symbol ∈ digits, symbol.isDigit = true)
    (nonempty : digits ≠ []) (rest : List Char) :
    Text.dropBlanks (digits ++ rest) = digits ++ rest := by
  cases digits with
  | nil => exact absurd rfl nonempty
  | cons first more =>
    have notBlank := not_isBlank_of_isDigit (isDigit first (List.mem_cons_self ..))
    rw [Text.dropBlanks, List.cons_append, List.dropWhile_cons_of_neg (by simp [notBlank])]

/-- Up to a limit, those digits are read that stand within the limit. -/
theorem readDigits_some {limit : Nat} (nonempty : digits ≠ []) (small : ofDigits digits < 2 ^ 63)
    (row : ((digits ++ rest).takeWhile Char.isDigit).take limit = digits) :
    readDigits (some limit) (digits ++ rest) = .ok ((ofDigits digits, digits.length), rest) := by
  have inRange : ¬ Nat.pow 2 63 ≤ ofDigits digits := Nat.not_le.mpr small
  have behind : (digits ++ rest).drop digits.length = rest := List.drop_left ..
  obtain ⟨first, more, rfl⟩ := List.exists_cons_of_ne_nil nonempty
  rw [List.cons_append] at row behind ⊢
  simp only [readDigits, row, if_neg inRange, behind]

/-- As many digits as the limit says are read, whatever stands behind them. -/
theorem readDigits_exact (isDigit : ∀ symbol ∈ digits, symbol.isDigit = true)
    (nonempty : digits ≠ []) (small : ofDigits digits < 2 ^ 63) (rest : List Char) :
    readDigits (some digits.length) (digits ++ rest) =
      .ok ((ofDigits digits, digits.length), rest) := by
  refine readDigits_some nonempty small ?_
  rw [takeWhile_digits isDigit]
  exact List.take_left ..

/-- Fewer digits than the limit says are read, if no digit follows. -/
theorem readDigits_fewer {limit : Nat} (isDigit : ∀ symbol ∈ digits, symbol.isDigit = true)
    (nonempty : digits ≠ []) (small : ofDigits digits < 2 ^ 63) (fewer : digits.length ≤ limit)
    (ends : rest.takeWhile Char.isDigit = []) :
    readDigits (some limit) (digits ++ rest) = .ok ((ofDigits digits, digits.length), rest) := by
  refine readDigits_some nonempty small ?_
  rw [takeWhile_digits isDigit, ends, List.append_nil]
  exact List.take_of_length_le fewer

/-- Without a limit all digits are read, if no digit follows. -/
theorem readDigits_none (isDigit : ∀ symbol ∈ digits, symbol.isDigit = true)
    (nonempty : digits ≠ []) (small : ofDigits digits < 2 ^ 63)
    (ends : rest.takeWhile Char.isDigit = []) :
    readDigits none (digits ++ rest) = .ok ((ofDigits digits, digits.length), rest) := by
  have row : (digits ++ rest).takeWhile Char.isDigit = digits := by
    rw [takeWhile_digits isDigit, ends, List.append_nil]
  have inRange : ¬ Nat.pow 2 63 ≤ ofDigits digits := Nat.not_le.mpr small
  have behind : (digits ++ rest).drop digits.length = rest := List.drop_left ..
  obtain ⟨first, more, rfl⟩ := List.exists_cons_of_ne_nil nonempty
  rw [List.cons_append] at row behind ⊢
  simp only [readDigits, row, if_neg inRange, behind]

/-- A two-digit part is read back, whatever stands behind it. -/
theorem readPart_padded {least greatest : Nat} (inRange : least ≤ value ∧ value ≤ greatest)
    (small : value < 100) (rest : List Char) :
    readPart least greatest (padded 2 value ++ rest) = .ok (value, rest) := by
  have isDigit : ∀ symbol ∈ padded 2 value, symbol.isDigit = true := fun _ => isDigit_of_mem_padded
  have width : (padded 2 value).length = 2 := length_padded (by decide) small
  have inWord : ofDigits (padded 2 value) < 2 ^ 63 := by
    rw [ofDigits_padded]
    omega
  have digits := readDigits_exact isDigit (padded_ne_nil 2 value) inWord rest
  rw [width, ofDigits_padded] at digits
  have notOutside : ¬ (value < least ∨ greatest < value) := by omega
  rw [readPart, dropBlanks_digits isDigit (padded_ne_nil 2 value), digits]
  simp only [bind, Except.bind, if_neg notOutside]
  rfl

end EventCorrelation.Timestamp
