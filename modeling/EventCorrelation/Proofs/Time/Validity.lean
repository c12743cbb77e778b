import EventCorrelation.Proofs.Outcomes
import EventCorrelation.Proofs.Time.RoundTrip
import Mathlib.Data.List.Induction
import Mathlib.Data.List.TakeWhile
import Mathlib.Tactic.Ring

/-!
# Timestamps of texts

Whatever text a timestamp is read from, it is one of the calendar, and its leap second, if it has
one, ends a minute: offsets are whole minutes.
-/

namespace EventCorrelation

namespace Timestamp

variable {text rest : List Char} {nanos : Nat} {offset : Int}

theorem ofDigits_lt {digits : List Char} (isDigit : ∀ symbol ∈ digits, symbol.isDigit = true) :
    ofDigits digits < 10 ^ digits.length := by
  induction digits using List.reverseRecOn with
  | nil => decide
  | append_singleton front last ih =>
    have lastDigit := isDigit last (List.mem_append_right _ (List.mem_singleton_self _))
    have bounds := Text.toNat_of_isDigit lastDigit
    have zero : '0'.toNat = 0x30 := rfl
    have frontLess := ih fun symbol member => isDigit symbol (List.mem_append_left _ member)
    have value : ofDigits (front ++ [last]) = ofDigits front * 10 + (last.toNat - '0'.toNat) := by
      simp only [ofDigits, List.foldl_append, List.foldl_cons, List.foldl_nil]
    rw [value, List.length_append, List.length_singleton, Nat.pow_succ]
    omega

/-- What is read as digits has as many as are counted, and no more than the limit says. -/
theorem readDigits_lt {limit : Option Nat} {value count : Nat}
    (read : readDigits limit text = .ok ((value, count), rest)) :
    value < 10 ^ count ∧ ∀ most ∈ limit, count ≤ most := by
  have row : ∀ symbol ∈ text.takeWhile Char.isDigit, symbol.isDigit = true :=
    fun symbol => List.mem_takeWhile_imp
  unfold readDigits at read
  cases limit with
  | none =>
    simp only at read
    split at read
    · cases read
    · cases read
    · split at read
      · cases read
      · cases read
        exact ⟨ofDigits_lt row, nofun⟩
  | some limit =>
    simp only at read
    split at read
    · cases read
    · cases read
    · split at read
      · cases read
      · cases read
        refine ⟨ofDigits_lt fun symbol member => row symbol (List.mem_of_mem_take member), ?_⟩
        rintro most ⟨⟩
        exact List.length_take_le ..

theorem readFraction_lt (read : readFraction text = .ok (nanos, rest)) : nanos < 10 ^ 9 := by
  unfold readFraction at read
  split at read
  · obtain ⟨⟨⟨value, count⟩, behind⟩, digits, read⟩ := exists_of_bind read
    obtain ⟨less, most⟩ := readDigits_lt digits
    cases read
    have few : count ≤ 9 := most 9 rfl
    have scaled : 10 ^ count * 10 ^ (9 - count) = 10 ^ 9 := by
      rw [← Nat.pow_add, Nat.add_sub_cancel' few]
    have power : Nat.pow 10 (9 - count) = 10 ^ (9 - count) := rfl
    rw [power, ← scaled]
    exact Nat.mul_lt_mul_of_pos_right less (Nat.pow_pos (by decide))
  · cases read
    decide

theorem readOffset_minutes (read : readOffset text = .ok (offset, rest)) : offset % 60 = 0 := by
  unfold readOffset at read
  simp only at read
  split at read
  · cases read
    rfl
  · split at read
    · cases read
      rfl
    · cases read
      rfl
    · obtain ⟨⟨sign, text⟩, -, read⟩ := exists_of_bind read
      obtain ⟨⟨hours, text⟩, -, read⟩ := exists_of_bind read
      obtain ⟨⟨minutes, text⟩, -, read⟩ := exists_of_bind read
      cases read
      have whole : sign * ((hours : Int) * 3600 + minutes * 60) =
          60 * (sign * (hours * 60 + minutes)) := by ring
      rw [whole]
      exact Int.mul_emod_right ..

theorem yearRange_of_not {year : Int}
    (inCalendar : ¬ (year < CivilDate.yearRange.1 ∨ CivilDate.yearRange.2 < year)) :
    CivilDate.yearRange.1 ≤ year ∧ year ≤ CivilDate.yearRange.2 := by
  rw [not_or] at inCalendar
  exact ⟨Int.not_lt.mp inCalendar.1, Int.not_lt.mp inCalendar.2⟩

/-- A timestamp that is read is valid. -/
theorem isValid_of_parse {text : String} {time : Timestamp} (parsed : parse text = .ok time) :
    time.IsValid := by
  unfold parse at parsed
  obtain ⟨⟨year, text⟩, -, parsed⟩ := exists_of_bind parsed
  obtain ⟨text, -, parsed⟩ := exists_of_bind parsed
  obtain ⟨⟨month, text⟩, -, parsed⟩ := exists_of_bind parsed
  obtain ⟨text, -, parsed⟩ := exists_of_bind parsed
  obtain ⟨⟨day, text⟩, -, parsed⟩ := exists_of_bind parsed
  obtain ⟨text, -, parsed⟩ := exists_of_bind parsed
  obtain ⟨⟨hour, text⟩, -, parsed⟩ := exists_of_bind parsed
  obtain ⟨text, -, parsed⟩ := exists_of_bind parsed
  obtain ⟨⟨minute, text⟩, -, parsed⟩ := exists_of_bind parsed
  obtain ⟨text, -, parsed⟩ := exists_of_bind parsed
  obtain ⟨⟨second, text⟩, -, parsed⟩ := exists_of_bind parsed
  obtain ⟨⟨nanos, text⟩, fraction, parsed⟩ := exists_of_bind parsed
  obtain ⟨⟨offset, text⟩, zone, parsed⟩ := exists_of_bind parsed
  have nanosLess := readFraction_lt fraction
  have wholeMinutes := readOffset_minutes zone
  simp only at parsed
  split at parsed
  · cases parsed
  split at parsed
  · cases parsed
  split at parsed
  · cases parsed
  split at parsed
  · next isLeap =>
    split at parsed
    · cases parsed
    · next inCalendar =>
      cases parsed
      exact ⟨yearRange_of_not inCalendar, .inr ⟨by dsimp only; omega, by dsimp only; omega⟩⟩
  · next notLeap =>
    split at parsed
    · cases parsed
    · next inCalendar =>
      cases parsed
      exact ⟨yearRange_of_not inCalendar, .inl (by dsimp only; omega)⟩

end Timestamp

end EventCorrelation
