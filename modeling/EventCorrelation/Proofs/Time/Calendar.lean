import EventCorrelation.Time.Calendar

/-!
# The calendar and its days

Every day has a date, the date exists, and it gives the day back. A cycle of 400 years is divided
into four centuries, each century into spans of four years, and these into years; only the last part
of each division may be a day longer than the others.
-/

namespace EventCorrelation.CivilDate

/-- The day of a cycle by its century, its span of four years, its year and its day of the year. Only
a fourth year has a 366th day, and that of a last span only in the last century. -/
structure DayOfCycle (dayOfCycle century span year day : Int) : Prop where
  centuryRange : 0 ≤ century ∧ century ≤ 3
  spanRange : 0 ≤ span ∧ span ≤ 24
  yearRange : 0 ≤ year ∧ year ≤ 3
  dayRange : 0 ≤ day ∧ day ≤ 365
  leapDay : day = 365 → year = 3 ∧ (span = 24 → century = 3)
  split : dayOfCycle = 36524 * century + 1461 * span + 365 * year + day

theorem exists_dayOfCycle {dayOfCycle : Int} (least : 0 ≤ dayOfCycle)
    (greatest : dayOfCycle ≤ 146096) :
    ∃ century span year day, DayOfCycle dayOfCycle century span year day := by
  obtain ⟨century, centuryEq⟩ : ∃ century, century = min (dayOfCycle / 36524) 3 := ⟨_, rfl⟩
  obtain ⟨rest, restEq⟩ : ∃ rest, rest = dayOfCycle - 36524 * century := ⟨_, rfl⟩
  obtain ⟨span, spanEq⟩ : ∃ span, span = rest / 1461 := ⟨_, rfl⟩
  obtain ⟨year, yearEq⟩ : ∃ year, year = min (rest % 1461 / 365) 3 := ⟨_, rfl⟩
  refine ⟨century, span, year, rest % 1461 - 365 * year, ?_, ?_, ?_, ?_, ?_, ?_⟩
  all_goals omega

variable {dayOfCycle century span year day : Int}

/-- The year of the cycle, as it is computed from the day. -/
theorem DayOfCycle.yearOfCycle (parts : DayOfCycle dayOfCycle century span year day) :
    (dayOfCycle - dayOfCycle / 1460 + dayOfCycle / 36524 - dayOfCycle / 146096) / 365 =
      100 * century + 4 * span + year := by
  obtain ⟨centuryRange, spanRange, yearRange, dayRange, leapDay, split⟩ := parts
  have centuries : dayOfCycle / 36524 - dayOfCycle / 146096 = century := by
    by_cases last : 1461 * span + 365 * year + day = 36524
    · have lastDay : dayOfCycle = 146096 := by omega
      have lastCentury : century = 3 := by omega
      rw [lastDay, lastCentury]
      rfl
    · have inCentury : 0 ≤ 1461 * span + 365 * year + day ∧
          1461 * span + 365 * year + day < 36524 := by omega
      have whole : dayOfCycle / 36524 = century := by omega
      have notLast : dayOfCycle / 146096 = 0 := by omega
      omega
  omega

/-- The day of the year, as it is computed from the day and the year of the cycle. -/
theorem DayOfCycle.dayOfYear (parts : DayOfCycle dayOfCycle century span year day) :
    dayOfCycle - (365 * (100 * century + 4 * span + year) +
      (100 * century + 4 * span + year) / 4 - (100 * century + 4 * span + year) / 100) = day := by
  obtain ⟨centuryRange, spanRange, yearRange, dayRange, leapDay, split⟩ := parts
  have spans : (100 * century + 4 * span + year) / 4 = 25 * century + span := by omega
  have centuries : (100 * century + 4 * span + year) / 100 = century := by omega
  omega

/-- The date of a day of a year that starts with March, in the given month of that year. -/
def fromMarch (year month dayOfYear : Int) : CivilDate :=
  let civilMonth := if month < 10 then month + 3 else month - 9
  ⟨if civilMonth ≤ 2 then year + 1 else year, civilMonth.toNat,
    (dayOfYear - (153 * month + 2) / 5 + 1).toNat⟩

/-- What a day is made of: the cycle, the year in it, the month counted from March and the day of
that year. -/
structure MarchDay (days cycle year month day : Int) : Prop where
  yearRange : 0 ≤ year ∧ year ≤ 399
  dayRange : 0 ≤ day ∧ day ≤ 365
  month_eq : month = (5 * day + 2) / 153
  leapDay : day = 365 → isLeapYear (year + cycle * 400 + 1) = true
  days_eq : days = cycle * 146097 + (year * 365 + year / 4 - year / 100 + day) - 719468

theorem ofDays_eq_fromMarch (days : Int) :
    ∃ cycle year month day, MarchDay days cycle year month day ∧
      ofDays days = fromMarch (year + cycle * 400) month day := by
  have range : 0 ≤ (days + 719468) % 146097 ∧ (days + 719468) % 146097 ≤ 146096 := by omega
  obtain ⟨century, span, year, day, parts⟩ := exists_dayOfCycle range.1 range.2
  refine ⟨(days + 719468) / 146097, 100 * century + 4 * span + year, (5 * day + 2) / 153, day,
    ?_, ?_⟩
  · have dayOfYear := parts.dayOfYear
    obtain ⟨centuryRange, spanRange, yearRange, dayRange, leapDay, split⟩ := parts
    refine ⟨by omega, dayRange, rfl, fun last => ?_, by omega⟩
    simp only [isLeapYear, Bool.and_eq_true, Bool.or_eq_true, beq_iff_eq, bne_iff_ne]
    omega
  · simp only [ofDays, parts.yearOfCycle, parts.dayOfYear]
    rfl

variable {days cycle month : Int}

/-- The month is one of the year, and it has begun by the day. -/
theorem MarchDay.monthRange (made : MarchDay days cycle year month day) :
    0 ≤ month ∧ month ≤ 11 ∧ (153 * month + 2) / 5 ≤ day := by
  obtain ⟨-, dayRange, rfl, -, -⟩ := made
  omega

theorem MarchDay.toDays (made : MarchDay days cycle year month day) :
    (fromMarch (year + cycle * 400) month day).toDays = days := by
  have monthRange := made.monthRange
  obtain ⟨yearRange, -, -, -, rfl⟩ := made
  have cycles : (year + cycle * 400) / 400 = cycle := by omega
  have years : (year + cycle * 400) % 400 = year := by omega
  have dayBack : ((day - (153 * month + 2) / 5 + 1).toNat : Int) =
      day - (153 * month + 2) / 5 + 1 := Int.toNat_of_nonneg (by omega)
  by_cases thisYear : month < 10
  · have later : ¬ month + 3 ≤ 2 := by omega
    have laterNat : ¬ (month + 3).toNat ≤ 2 := by omega
    have monthBack : (((month + 3).toNat : Int) + 9) % 12 = month := by omega
    simp only [CivilDate.toDays, fromMarch, if_pos thisYear, if_neg later, if_neg laterNat,
      monthBack, dayBack, cycles, years]
    omega
  · have early : month - 9 ≤ 2 := by omega
    have earlyNat : (month - 9).toNat ≤ 2 := by omega
    have monthBack : (((month - 9).toNat : Int) + 9) % 12 = month := by omega
    simp only [CivilDate.toDays, fromMarch, if_neg thisYear, if_pos early, if_pos earlyNat,
      monthBack, dayBack, Int.add_sub_cancel, cycles, years]
    omega

/-- The date exists, its year apart. -/
structure Exists (date : CivilDate) : Prop where
  monthRange : 1 ≤ date.month ∧ date.month ≤ 12
  dayRange : 1 ≤ date.day ∧ date.day ≤ daysInMonth date.year date.month

theorem MarchDay.exists (made : MarchDay days cycle year month day) :
    Exists (fromMarch (year + cycle * 400) month day) := by
  have monthRange := made.monthRange
  obtain ⟨-, dayRange, month_eq, leapDay, -⟩ := made
  by_cases thisYear : month < 10
  · have later : ¬ month + 3 ≤ 2 := by omega
    simp only [fromMarch, if_pos thisYear, if_neg later]
    refine ⟨⟨?_, ?_⟩, ?_, ?_⟩
    all_goals dsimp only
    · omega
    · omega
    · omega
    · rw [daysInMonth]
      split
      · omega
      · split <;> omega
  · have early : month - 9 ≤ 2 := by omega
    simp only [fromMarch, if_neg thisYear, if_pos early]
    refine ⟨⟨?_, ?_⟩, ?_, ?_⟩
    all_goals dsimp only
    · omega
    · omega
    · omega
    · rw [daysInMonth]
      split
      · by_cases last : day = 365
        · rw [if_pos (leapDay last)]
          omega
        · split <;> omega
      · split <;> omega

/-- A day gives its date, which gives the day back. -/
theorem toDays_ofDays (days : Int) : (ofDays days).toDays = days := by
  obtain ⟨cycle, year, month, day, made, dateEq⟩ := ofDays_eq_fromMarch days
  rw [dateEq, made.toDays]

/-- Apart from its year, the date of every day exists. -/
theorem exists_ofDays (days : Int) : Exists (ofDays days) := by
  obtain ⟨cycle, year, month, day, made, dateEq⟩ := ofDays_eq_fromMarch days
  rw [dateEq]
  exact made.exists

theorem isValid_ofDays {days : Int} (inRange : yearRange.1 ≤ (ofDays days).year ∧
    (ofDays days).year ≤ yearRange.2) : (ofDays days).isValid = true := by
  obtain ⟨monthRange, dayRange⟩ := exists_ofDays days
  simp only [isValid, Bool.and_eq_true, decide_eq_true_eq]
  exact ⟨⟨⟨⟨⟨inRange.1, inRange.2⟩, monthRange.1⟩, monthRange.2⟩, dayRange.1⟩, dayRange.2⟩

end EventCorrelation.CivilDate
