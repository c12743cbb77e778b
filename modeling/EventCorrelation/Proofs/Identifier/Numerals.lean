import EventCorrelation.Identifier.Spelling
import EventCorrelation.Proofs.Identifier.RoundTrip
import Mathlib.Tactic.Ring

/-!
# Base 32 numerals of any spelling

A numeral is read just if all its characters are digits, and its value is the number that they stand
for. Numerals of one width with the same value differ in letter case only, and those that 128 bits
do not tell apart also in the two upper bits of their first digits.
-/

namespace EventCorrelation.Base32

variable {symbol : Char} {symbols : List Char} {value : Nat} {values : List Nat}

theorem eq_toUpper_or_eq_toLower (symbol : Char) :
    symbol = symbol.toUpper ∨ symbol = symbol.toUpper.toLower := by
  by_cases isSmall : 97 ≤ symbol.toNat ∧ symbol.toNat ≤ 122
  · right
    have small : ∀ point < 123, 97 ≤ point →
        Char.ofNat point = (Char.ofNat point).toUpper.toLower := by
      decide
    have restored := small symbol.toNat (Nat.lt_succ_of_le isSmall.2) isSmall.1
    rwa [Char.ofNat_toNat] at restored
  · left
    have unchanged : symbol.toUpper = symbol := dif_neg isSmall
    rw [unchanged]

theorem toUpper_of_mem_alphabet {capital : Char} (listed : capital ∈ alphabet) :
    capital.toUpper = capital ∧ capital.toLower.toUpper = capital := by
  have all : alphabet.all (fun digit => digit.toUpper == digit && digit.toLower.toUpper == digit) =
      true := by
    decide
  simpa using List.all_eq_true.mp all capital listed

theorem isDigit_iff : IsDigit symbol value ↔ alphabet[value]? = some symbol.toUpper := by
  constructor
  · rintro ⟨capital, listed, written⟩
    obtain ⟨upper, lower⟩ := toUpper_of_mem_alphabet (List.mem_of_getElem? listed)
    rcases written with rfl | rfl
    · rw [listed, upper]
    · rw [listed, lower]
  · intro listed
    exact ⟨symbol.toUpper, listed, eq_toUpper_or_eq_toLower symbol⟩

theorem alphabet_nodup : alphabet.Nodup := by
  decide

theorem digitValue?_eq_some_iff : digitValue? symbol = some value ↔ IsDigit symbol value := by
  rw [isDigit_iff, digitValue?, List.findIdx?_eq_some_iff_getElem]
  constructor
  · rintro ⟨bound, found, -⟩
    rw [List.getElem?_eq_getElem bound, beq_iff_eq.mp found]
  · intro listed
    obtain ⟨bound, found⟩ := List.getElem?_eq_some_iff.mp listed
    refine ⟨bound, beq_iff_eq.mpr found, fun place before same => ?_⟩
    have again : alphabet[place]? = alphabet[value]? := by
      rw [List.getElem?_eq_getElem (Nat.lt_trans before bound), beq_iff_eq.mp same, listed]
    have samePlace := (List.getElem?_inj (Nat.lt_trans before bound) alphabet_nodup).mp again
    exact Nat.ne_of_lt before samePlace

theorem IsDigit.lt (isDigit : IsDigit symbol value) : value < 32 := by
  obtain ⟨capital, listed, -⟩ := isDigit
  exact (List.getElem?_eq_some_iff.mp listed).1

theorem IsDigit.ascii (isDigit : IsDigit symbol value) : symbol.toNat < 0x80 := by
  have all : alphabet.all (fun digit => digit.toNat < 0x80 && digit.toLower.toNat < 0x80) =
      true := by
    decide
  obtain ⟨capital, listed, written⟩ := isDigit
  obtain ⟨upper, lower⟩ : capital.toNat < 0x80 ∧ capital.toLower.toNat < 0x80 := by
    simpa using List.all_eq_true.mp all capital (List.mem_of_getElem? listed)
  rcases written with rfl | rfl
  · exact upper
  · exact lower

theorem IsDigit.eq_iff {other : Char} {otherValue : Nat} (isDigit : IsDigit symbol value)
    (isOther : IsDigit other otherValue) : value = otherValue ↔ symbol.toUpper = other.toUpper := by
  have bound := (List.getElem?_eq_some_iff.mp (isDigit_iff.mp isDigit)).1
  rw [← List.getElem?_inj bound alphabet_nodup, isDigit_iff.mp isDigit, isDigit_iff.mp isOther,
    Option.some.injEq]

theorem Spells.length_eq (spells : Spells values symbols) : values.length = symbols.length := by
  induction spells with
  | nil => rfl
  | cons head tail ih => rw [List.length_cons, List.length_cons, ih]

theorem Spells.isDigit (spells : Spells values symbols) :
    ∀ symbol ∈ symbols, ∃ value, IsDigit symbol value := by
  induction spells with
  | nil => exact fun _ member => nomatch member
  | @cons value values symbol symbols head tail ih =>
    rintro other (_ | ⟨_, member⟩)
    · exact ⟨value, head⟩
    · exact ih other member

theorem Spells.ascii (spells : Spells values symbols) :
    ∀ symbol ∈ symbols, symbol.toNat < 0x80 := by
  intro symbol member
  obtain ⟨value, isDigit⟩ := spells.isDigit symbol member
  exact isDigit.ascii

theorem number_cons (value : Nat) (rest : List Nat) :
    number (value :: rest) = value * 32 ^ rest.length + number rest := rfl

theorem Spells.number_lt (spells : Spells values symbols) : number values < 32 ^ values.length := by
  induction spells with
  | nil => exact Nat.one_pos
  | @cons value values symbol symbols head tail ih =>
    calc
      number (value :: values) = value * 32 ^ values.length + number values := number_cons ..
      _ < value * 32 ^ values.length + 32 ^ values.length := Nat.add_lt_add_left ih _
      _ = (value + 1) * 32 ^ values.length := (Nat.succ_mul ..).symm
      _ ≤ 32 * 32 ^ values.length := Nat.mul_le_mul_right _ head.lt
      _ = 32 ^ (value :: values).length := (Nat.pow_succ' ..).symm

/-- A number and the rest of a larger one are told apart by the size of the rest. -/
theorem joined_eq_iff {base low otherLow : Nat} (below : low < base) (otherBelow : otherLow < base)
    (high otherHigh : Nat) :
    high * base + low = otherHigh * base + otherLow ↔ high = otherHigh ∧ low = otherLow := by
  refine ⟨fun same => ?_, fun same => by rw [same.1, same.2]⟩
  have highs := congrArg (· / base) same
  have lows := congrArg (· % base) same
  simp only [Nat.mul_add_mod_self_right, Nat.mod_eq_of_lt below, Nat.mod_eq_of_lt otherBelow] at lows
  have positive : 0 < base := Nat.zero_lt_of_lt below
  simp only [Nat.mul_comm _ base, Nat.mul_add_div positive, Nat.div_eq_of_lt below,
    Nat.div_eq_of_lt otherBelow] at highs
  exact ⟨highs, lows⟩

section Comparing

variable {others : List Char} {otherValues : List Nat}

/-- Two numerals of one width have the same number just if they are the same up to letter case. -/
theorem Spells.number_inj (spells : Spells values symbols) (spellsOther : Spells otherValues others)
    (width : symbols.length = others.length) :
    number values = number otherValues ↔
      symbols.map Char.toUpper = others.map Char.toUpper := by
  induction spells generalizing otherValues others with
  | nil =>
    cases spellsOther with
    | nil => exact iff_of_true rfl rfl
    | cons => cases width
  | cons head tail ih =>
    cases spellsOther with
    | nil => cases width
    | cons otherHead otherTail =>
      have tailWidth := Nat.succ.inj width
      have sameLength := tail.length_eq.trans (tailWidth.trans otherTail.length_eq.symm)
      have otherBelow := otherTail.number_lt
      rw [← sameLength] at otherBelow
      rw [number_cons, number_cons, ← sameLength, joined_eq_iff tail.number_lt otherBelow,
        head.eq_iff otherHead, ih otherTail tailWidth, List.map_cons, List.map_cons, List.cons.injEq]

/-- Of a numeral with 26 digits, 128 bits hold all but the two upper bits of the first digit. -/
theorem number_mod {value : Nat} {values : List Nat} (width : values.length = 25)
    (below : number values < 32 ^ values.length) :
    number (value :: values) % 2 ^ 128 = value % 8 * 32 ^ 25 + number values := by
  rw [width] at below
  have split : 2 ^ 128 = 32 ^ 25 * 8 := by decide
  have positive : 0 < 32 ^ 25 := Nat.zero_lt_of_lt below
  rw [number_cons, width, split, Nat.mod_mul, Nat.mul_add_mod_self_right, Nat.mod_eq_of_lt below,
    Nat.mul_comm value, Nat.mul_add_div positive, Nat.div_eq_of_lt below, Nat.add_zero]
  exact (Nat.add_comm ..).trans (congrArg (· + _) (Nat.mul_comm ..))

theorem Spells.alike_iff (spells : Spells values symbols) (spellsOther : Spells otherValues others)
    (width : symbols.length = 26) (otherWidth : others.length = 26) :
    number values % 2 ^ 128 = number otherValues % 2 ^ 128 ↔ Alike symbols others := by
  cases spells with
  | nil => cases width
  | cons head tail =>
    cases spellsOther with
    | nil => cases otherWidth
    | cons otherHead otherTail =>
      have below := tail.number_lt
      have otherBelow := otherTail.number_lt
      have length := tail.length_eq.trans (Nat.succ.inj width)
      have otherLength := otherTail.length_eq.trans (Nat.succ.inj otherWidth)
      rw [number_mod length below, number_mod otherLength otherBelow]
      rw [length] at below
      rw [otherLength] at otherBelow
      rw [joined_eq_iff below otherBelow,
        tail.number_inj otherTail ((Nat.succ.inj width).trans (Nat.succ.inj otherWidth).symm)]
      constructor
      · rintro ⟨lowBits, letters⟩
        exact .intro head otherHead lowBits letters
      · rintro ⟨isLeft, isRight, lowBits, letters⟩
        rw [(head.eq_iff isLeft).mpr rfl, (otherHead.eq_iff isRight).mpr rfl]
        exact ⟨lowBits, letters⟩

end Comparing

/-- Reading from the left shifts what was read before by one digit each time. -/
theorem foldlM_eq_some_iff (start : Nat) (symbols : List Char) (value : Nat) :
    symbols.foldlM (fun value symbol => (digitValue? symbol).map (value * 32 + ·)) start =
        some value ↔
      ∃ values, Spells values symbols ∧ value = start * 32 ^ values.length + number values := by
  induction symbols generalizing start with
  | nil =>
    rw [List.foldlM_nil]
    constructor
    · rintro ⟨⟩
      exact ⟨[], .nil, by simp [number]⟩
    · rintro ⟨values, spells, same⟩
      cases spells
      simp [same, number]
  | cons symbol rest ih =>
    rw [List.foldlM_cons]
    constructor
    · intro read
      obtain ⟨next, readFirst, readRest⟩ := Option.bind_eq_some_iff.mp read
      obtain ⟨digit, isDigit, rfl⟩ := Option.map_eq_some_iff.mp readFirst
      obtain ⟨values, spells, same⟩ := (ih _).mp readRest
      refine ⟨digit :: values, .cons (digitValue?_eq_some_iff.mp isDigit) spells, ?_⟩
      rw [same, number_cons, List.length_cons, Nat.pow_succ]
      ring
    · rintro ⟨values, spells, same⟩
      cases spells with
      | @cons digit values _ _ head tail =>
        refine Option.bind_eq_some_iff.mpr ⟨start * 32 + digit, ?_, (ih _).mpr ⟨values, tail, ?_⟩⟩
        · rw [digitValue?_eq_some_iff.mpr head]
          rfl
        · rw [same, number_cons, List.length_cons, Nat.pow_succ]
          ring

theorem decode?_eq_some_iff :
    decode? symbols = some value ↔ ∃ values, Spells values symbols ∧ value = number values := by
  rw [decode?, foldlM_eq_some_iff]
  simp

/-- A row of characters of which each is a digit spells something. -/
theorem exists_spells (digits : ∀ symbol ∈ symbols, ∃ value, IsDigit symbol value) :
    ∃ values, Spells values symbols := by
  induction symbols with
  | nil => exact ⟨[], .nil⟩
  | cons symbol rest ih =>
    obtain ⟨value, isDigit⟩ := digits symbol (List.mem_cons_self ..)
    obtain ⟨values, spells⟩ := ih fun other member => digits other (List.mem_cons_of_mem _ member)
    exact ⟨value :: values, .cons isDigit spells⟩

end EventCorrelation.Base32
