import EventCorrelation.Proofs.Time.Calendar
import EventCorrelation.Proofs.Time.Digits

/-!
# Reading timestamps back

The text of a timestamp within the calendar is read back as the timestamp, with all of its
nanoseconds, in ordinary seconds and in leap seconds at the end of a minute.
-/

namespace EventCorrelation.Timestamp

/-- The timestamps that a clock or a text can give. Their year is one of the calendar, and only the
last second of a minute may be followed by a leap second. -/
structure IsValid (time : Timestamp) : Prop where
  yearRange : CivilDate.yearRange.1 ≤ (CivilDate.ofDays (time.seconds / 86400)).year ∧
    (CivilDate.ofDays (time.seconds / 86400)).year ≤ CivilDate.yearRange.2
  nanosRange : time.nanos < 10 ^ 9 ∨ time.nanos < 2 * 10 ^ 9 ∧ time.seconds % 60 = 59

/-- A year that starts with a digit has four of them. -/
theorem readYear_digits {digits rest : List Char} {value : Nat}
    (isDigit : ∀ symbol ∈ digits, symbol.isDigit = true) (nonempty : digits ≠ [])
    (read : readDigits (some 4) (digits ++ rest) = .ok ((value, 4), rest))
    (inRange : value < 2147483648) : readYear (digits ++ rest) = .ok ((value : Int), rest) := by
  have notOutside : ¬ ((value : Int) < -2147483648 ∨ 2147483648 ≤ (value : Int)) := by omega
  have noBlanks := dropBlanks_digits isDigit nonempty rest
  rw [readYear, noBlanks]
  obtain ⟨first, more, rfl⟩ := List.exists_cons_of_ne_nil nonempty
  have firstDigit : first.isDigit = true := isDigit first (List.mem_cons_self ..)
  have notMinus : first ≠ '-' := by rintro rfl; cases firstDigit
  have notPlus : first ≠ '+' := by rintro rfl; cases firstDigit
  split
  · next same => exact absurd (List.cons.inj same).1 notMinus
  · next same => exact absurd (List.cons.inj same).1 notPlus
  · simp only [read, bind, Except.bind, pure, Except.pure, if_neg notOutside]

theorem readYear_yearText {year : Int}
    (inRange : CivilDate.yearRange.1 ≤ year ∧ year ≤ CivilDate.yearRange.2) (rest : List Char) :
    readYear (yearText year ++ '-' :: rest) = .ok (year, '-' :: rest) := by
  have bounds : -262143 ≤ year ∧ year ≤ 262142 := inRange
  have notOutside : ¬ (year < -2147483648 ∨ 2147483648 ≤ year) := by omega
  have isDigit (value : Nat) : ∀ symbol ∈ padded 4 value, symbol.isDigit = true :=
    fun _ => isDigit_of_mem_padded
  have inWord (value : Nat) (small : value ≤ 262143) : ofDigits (padded 4 value) < 2 ^ 63 := by
    rw [ofDigits_padded]
    omega
  rw [yearText]
  split
  · next fourDigits =>
    have digits := readDigits_exact (isDigit year.toNat) (padded_ne_nil 4 year.toNat)
      (inWord year.toNat (by omega)) ('-' :: rest)
    rw [length_padded (by decide) (by omega), ofDigits_padded] at digits
    have back : (year.toNat : Int) = year := by omega
    have read := readYear_digits (isDigit year.toNat) (padded_ne_nil 4 year.toNat) digits (by omega)
    rwa [back] at read
  · next signed =>
    have digits := readDigits_none (isDigit year.natAbs) (padded_ne_nil 4 year.natAbs)
      (inWord year.natAbs (by omega)) (rfl : ('-' :: rest).takeWhile Char.isDigit = [])
    rw [ofDigits_padded] at digits
    by_cases negative : year < 0
    · have back : -(year.natAbs : Int) = year := by omega
      rw [if_pos negative, List.cons_append, readYear]
      have noBlanks : Text.dropBlanks ('-' :: (padded 4 year.natAbs ++ '-' :: rest)) =
        '-' :: (padded 4 year.natAbs ++ '-' :: rest) := rfl
      simp only [noBlanks, digits, bind, Except.bind, pure, Except.pure, back, if_neg notOutside]
    · have back : (year.natAbs : Int) = year := by omega
      rw [if_neg negative, List.cons_append, readYear]
      have noBlanks : Text.dropBlanks ('+' :: (padded 4 year.natAbs ++ '-' :: rest)) =
        '+' :: (padded 4 year.natAbs ++ '-' :: rest) := rfl
      simp only [noBlanks, digits, bind, Except.bind, pure, Except.pure, back, if_neg notOutside]

theorem readFraction_padded {width value : Nat} (positive : 0 < width) (most : width ≤ 9)
    (fits : value < 10 ^ width) :
    readFraction ('.' :: padded width value ++ ['Z']) = .ok (value * 10 ^ (9 - width), ['Z']) := by
  have isDigit : ∀ symbol ∈ padded width value, symbol.isDigit = true :=
    fun _ => isDigit_of_mem_padded
  have length := length_padded positive fits
  have inWord : ofDigits (padded width value) < 2 ^ 63 := by
    have widest : 10 ^ width ≤ 10 ^ 9 := Nat.pow_le_pow_right (by decide) most
    rw [ofDigits_padded]
    omega
  have digits := readDigits_fewer isDigit (padded_ne_nil width value) inWord (length ▸ most)
    (rfl : ['Z'].takeWhile Char.isDigit = [])
  rw [length, ofDigits_padded] at digits
  rw [List.cons_append, readFraction, digits]
  rfl

/-- The digits of a fraction without its last zeros, in groups of three, are the fraction. -/
theorem readFraction_fractionText {nanos : Nat} (small : nanos < 10 ^ 9) :
    readFraction (fractionText nanos ++ ['Z']) = .ok (nanos, ['Z']) := by
  unfold fractionText
  split
  · next zero =>
    rw [zero]
    rfl
  split
  · have millis : nanos / 1000000 * 10 ^ (9 - 3) = nanos := by omega
    rw [readFraction_padded (by decide) (by decide) (by omega), millis]
  split
  · have micros : nanos / 1000 * 10 ^ (9 - 6) = nanos := by omega
    rw [readFraction_padded (by decide) (by decide) (by omega), micros]
  · rw [readFraction_padded (by decide) (by decide) small]
    simp

theorem readMark_self {mark : Char} (notBlank : Text.isBlank mark = false) (rest : List Char) :
    readMark mark (mark :: rest) = .ok rest := by
  have noBlanks : Text.dropBlanks (mark :: rest) = mark :: rest :=
    List.dropWhile_cons_of_neg (by simp [notBlank])
  rw [readMark, noBlanks]
  exact if_pos rfl

/-- The text of a date and a time of day. -/
def partsText (date : CivilDate) (hour minute second nanos : Nat) : List Char :=
  yearText date.year ++ '-' :: (padded 2 date.month ++ '-' :: (padded 2 date.day ++ 'T' ::
    (padded 2 hour ++ ':' :: (padded 2 minute ++ ':' :: (padded 2 second ++
      (fractionText nanos ++ ['Z']))))))

/-- The seconds of a date and a time of day, a leap second counted as the one before it. -/
def partsSeconds (date : CivilDate) (hour minute second : Nat) : Int :=
  date.toDays * 86400 + hour * 3600 + minute * 60 +
    (second - (if second = 60 then 1 else 0) : Nat)

variable {date : CivilDate} {hour minute second nanos : Nat}

theorem day_le_of_isValid (valid : date.isValid = true) : date.day ≤ 31 := by
  simp only [CivilDate.isValid, Bool.and_eq_true, decide_eq_true_eq] at valid
  refine Nat.le_trans valid.2 ?_
  rw [CivilDate.daysInMonth]
  split
  · split <;> decide
  · split <;> decide

/-- A date and a time of day that exist are read back, if the date is that of their day. -/
theorem parse_partsText (valid : date.isValid = true) (hourRange : hour ≤ 23)
    (minuteRange : minute ≤ 59) (secondRange : second ≤ 60) (nanosRange : nanos < 10 ^ 9)
    (sameDay : CivilDate.ofDays (partsSeconds date hour minute second / 86400) = date) :
    parse (String.ofList (partsText date hour minute second nanos)) =
      .ok ⟨partsSeconds date hour minute second,
        nanos + (if second = 60 then 1 else 0) * 1000000000⟩ := by
  have dayRange := day_le_of_isValid valid
  have dateRange := valid
  simp only [CivilDate.isValid, Bool.and_eq_true, decide_eq_true_eq] at dateRange
  obtain ⟨⟨⟨⟨yearRange, monthLeast⟩, monthMost⟩, dayLeast⟩, -⟩ := dateRange
  have inCalendar : ¬ (date.year < CivilDate.yearRange.1 ∨ CivilDate.yearRange.2 < date.year) :=
    not_or.mpr ⟨Int.not_lt.mpr yearRange.1, Int.not_lt.mpr yearRange.2⟩
  have seconds : date.toDays * 86400 + hour * 3600 + minute * 60 +
      (second - (if second = 60 then 1 else 0) : Nat) - 0 = partsSeconds date hour minute second :=
    Int.sub_zero _
  have readYear := readYear_yearText yearRange
  have readMonth := readPart_padded ⟨monthLeast, monthMost⟩ (by omega)
  have readDay := readPart_padded ⟨dayLeast, dayRange⟩ (by omega)
  have readHour := readPart_padded ⟨Nat.zero_le hour, hourRange⟩ (by omega)
  have readMinute := readPart_padded ⟨Nat.zero_le minute, minuteRange⟩ (by omega)
  have readSecond := readPart_padded ⟨Nat.zero_le second, secondRange⟩ (by omega)
  have hyphen := @readMark_self '-' rfl
  have colon := @readMark_self ':' rfl
  have joint (rest : List Char) : readJoint ('T' :: rest) = .ok rest := rfl
  have offset : readOffset ['Z'] = .ok (0, []) := rfl
  have offsetSmall : ¬ (0 : Int).natAbs ≥ 86400 := by decide
  have noRest : (Text.dropBlanks []).isEmpty = true := rfl
  simp only [parse, String.toList_ofList, partsText, bind, Except.bind, pure, Except.pure, readYear,
    readMonth, readDay, joint, readHour, readMinute, readSecond, hyphen, colon,
    readFraction_fractionText nanosRange, offset, noRest, valid, seconds, sameDay,
    if_neg inCalendar, Bool.not_true, Bool.false_eq_true, if_false, if_neg offsetSmall]

/-- The parts that a timestamp is written in. -/
theorem text_eq_partsText (seconds : Int) (nanos : Nat) :
    Timestamp.text ⟨seconds, nanos⟩ = String.ofList (partsText (CivilDate.ofDays (seconds / 86400))
      ((seconds % 86400).toNat / 3600) ((seconds % 86400).toNat / 60 % 60)
      ((seconds % 86400).toNat % 60 + if nanos < 1000000000 then 0 else 1)
      (nanos - (if nanos < 1000000000 then 0 else 1) * 1000000000)) := by
  rw [text, partsText]
  simp only [List.append_assoc, List.cons_append]

/-- The parts of a second of a day give the second back. -/
theorem partsSeconds_of_second (seconds : Int) (second : Nat)
    (same : second - (if second = 60 then 1 else 0) = (seconds % 86400).toNat % 60) :
    partsSeconds (CivilDate.ofDays (seconds / 86400)) ((seconds % 86400).toNat / 3600)
      ((seconds % 86400).toNat / 60 % 60) second = seconds := by
  rw [partsSeconds, same, CivilDate.toDays_ofDays]
  omega

/-- The text of a timestamp is read back as the timestamp. -/
theorem parse_text {time : Timestamp} (valid : time.IsValid) : parse time.text = .ok time := by
  obtain ⟨seconds, nanos⟩ := time
  obtain ⟨yearRange, nanosRange⟩ := valid
  have dateValid := CivilDate.isValid_ofDays yearRange
  have hourRange : (seconds % 86400).toNat / 3600 ≤ 23 := by omega
  have minuteRange : (seconds % 86400).toNat / 60 % 60 ≤ 59 := by omega
  dsimp only at nanosRange
  rw [text_eq_partsText]
  by_cases ordinary : nanos < 1000000000
  · simp only [if_pos ordinary, Nat.add_zero, Nat.zero_mul, Nat.sub_zero]
    have secondRange : (seconds % 86400).toNat % 60 ≤ 60 := by omega
    have notLeap : (seconds % 86400).toNat % 60 ≠ 60 := by omega
    have back := partsSeconds_of_second seconds ((seconds % 86400).toNat % 60)
      (by rw [if_neg notLeap, Nat.sub_zero])
    have parsed := parse_partsText dateValid hourRange minuteRange secondRange ordinary
      (by rw [back])
    rw [parsed, back, if_neg notLeap, Nat.zero_mul, Nat.add_zero]
  · have lastSecond : (seconds % 86400).toNat % 60 = 59 := by omega
    have fraction : nanos - 1000000000 < 10 ^ 9 := by omega
    have nanosBack : nanos - 1000000000 + 1000000000 = nanos := by omega
    simp only [if_neg ordinary, lastSecond, Nat.reduceAdd, Nat.one_mul]
    have back := partsSeconds_of_second seconds 60 lastSecond.symm
    have parsed := parse_partsText dateValid hourRange minuteRange (Nat.le_refl 60) fraction
      (by rw [back])
    rw [parsed, back, if_pos rfl, Nat.one_mul, nanosBack]

end EventCorrelation.Timestamp
