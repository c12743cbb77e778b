import EventCorrelation.Proofs.Identifier.Numerals
import Mathlib.Data.List.TakeWhile

/-!
# Which texts are identifiers

A text is read as an identifier just if it spells one, and its number is that of its digits without
the bits that do not fit. Any other text is refused with the first thing that is wrong with it. So
the texts of one identifier differ in nothing but letter case and those bits.
-/

namespace EventCorrelation.Identifier

variable {kind : EntityKind} {text numeral : String} {id : Identifier kind} {fault : Fault}

theorem parse_of_spells {values : List Nat} (spells : Spells kind values text) :
    parse kind text = .ok ⟨BitVec.ofNat 128 (Base32.number values)⟩ := by
  obtain ⟨digits, width⟩ := spells
  have decoded := Base32.decode?_eq_some_iff.mpr ⟨values, digits, rfl⟩
  rw [parse_ownTag, ofNumeral,
    if_neg (not_not_intro width), decoded]

theorem parse_of_refuses (refuses : Refuses kind text fault) : parse kind text = .error fault := by
  cases refuses with
  | empty => rfl
  | missingSeparator nonempty absent =>
    have nothing : text.toList.dropWhile (· != '_') = [] :=
      List.dropWhile_eq_nil_iff.mpr (ne_underscore_of_not_mem absent)
    rw [parse, if_neg (fun empty => nonempty (String.isEmpty_iff.mp empty)), nothing]
  | foreignTag first foreign => rw [parse_tagged first, if_pos foreign]
  | wrongLength width =>
    rw [parse_ownTag, ofNumeral, if_pos width]
  | @foreignDigit numeral symbol width member foreign =>
    have undecoded : Base32.decode? numeral.toList = none := by
      rw [Option.eq_none_iff_forall_ne_some]
      intro value decoded
      obtain ⟨values, spells, -⟩ := Base32.decode?_eq_some_iff.mp decoded
      obtain ⟨digit, isDigit⟩ := spells.isDigit symbol member
      exact foreign digit isDigit
    rw [parse_ownTag, ofNumeral,
      if_neg (not_not_intro width), undecoded]

/-- A text that spells no identifier has something wrong with it. -/
theorem spells_or_refuses (kind : EntityKind) (text : String) :
    (∃ values, Spells kind values text) ∨ ∃ fault, Refuses kind text fault := by
  by_cases empty : text = ""
  · subst empty
    exact .inr ⟨_, .empty⟩
  by_cases separated : '_' ∈ text.toList
  swap
  · exact .inr ⟨_, .missingSeparator empty separated⟩
  obtain ⟨front, back, listed, first⟩ := List.eq_append_cons_of_mem separated
  obtain rfl : text = String.ofList front ++ "_" ++ String.ofList back := by
    refine String.toList_inj.mp ?_
    rw [listed, toList_tagged, String.toList_ofList, String.toList_ofList]
  rw [← String.toList_ofList (l := front)] at first
  by_cases foreign : String.ofList front = kind.tag
  swap
  · exact .inr ⟨_, .foreignTag first foreign⟩
  rw [foreign]
  by_cases width : (String.ofList back).utf8ByteSize = numeralWidth
  swap
  · exact .inr ⟨_, .wrongLength width⟩
  by_cases digits : ∀ symbol ∈ (String.ofList back).toList, ∃ value, Base32.IsDigit symbol value
  · obtain ⟨values, spells⟩ := Base32.exists_spells digits
    exact .inl ⟨values, .intro spells width⟩
  · push Not at digits
    obtain ⟨symbol, member, noDigit⟩ := digits
    exact .inr ⟨_, .foreignDigit width member noDigit⟩

theorem parse_ok_iff :
    parse kind text = .ok id ↔
      ∃ values, Spells kind values text ∧ id.value = BitVec.ofNat 128 (Base32.number values) := by
  constructor
  · intro parsed
    rcases spells_or_refuses kind text with ⟨values, spells⟩ | ⟨fault, refuses⟩
    · cases (parse_of_spells spells).symm.trans parsed
      exact ⟨values, spells, rfl⟩
    · cases (parse_of_refuses refuses).symm.trans parsed
  · rintro ⟨values, spells, same⟩
    rw [parse_of_spells spells, ← same]

theorem parse_error_iff : parse kind text = .error fault ↔ Refuses kind text fault := by
  refine ⟨fun parsed => ?_, parse_of_refuses⟩
  rcases spells_or_refuses kind text with ⟨values, spells⟩ | ⟨found, refuses⟩
  · cases (parse_of_spells spells).symm.trans parsed
  · cases (parse_of_refuses refuses).symm.trans parsed
    exact refuses

/-- A numeral of digits has as many digits as bytes. -/
theorem length_of_spells {values : List Nat} (spells : Base32.Spells values numeral.toList)
    (width : numeral.utf8ByteSize = numeralWidth) : numeral.toList.length = numeralWidth := by
  rwa [Text.utf8ByteSize_eq_length_encode, Text.encode_of_ascii spells.ascii,
    List.length_map] at width

theorem alike_iff {left right : String} {leftValues rightValues : List Nat}
    (spellsLeft : Spells kind leftValues left) (spellsRight : Spells kind rightValues right) :
    Base32.number leftValues % 2 ^ 128 = Base32.number rightValues % 2 ^ 128 ↔
      Alike kind left right := by
  obtain ⟨leftDigits, leftWidth⟩ := spellsLeft
  obtain ⟨rightDigits, rightWidth⟩ := spellsRight
  rw [leftDigits.alike_iff rightDigits (length_of_spells leftDigits leftWidth)
    (length_of_spells rightDigits rightWidth)]
  refine ⟨.intro, fun alike => ?_⟩
  generalize leftEq : kind.tag ++ "_" ++ _ = leftText at alike
  generalize rightEq : kind.tag ++ "_" ++ _ = rightText at alike
  obtain ⟨numerals⟩ := alike
  rw [String.append_right_inj] at leftEq rightEq
  rw [leftEq, rightEq]
  exact numerals

/-- What a text has to be to be read as an identifier of a kind, and what it is refused for
otherwise. Every identifier is read back from its text, and two texts say the same identifier just if
they are the same up to letter case and to the bits that do not fit. -/
theorem parse_by_grammar (kind : EntityKind) :
    (∀ text (id : Identifier kind), parse kind text = .ok id ↔
      ∃ values, Spells kind values text ∧ id.value.toNat = Base32.number values % 2 ^ 128) ∧
    (∀ text fault, parse kind text = .error fault ↔ Refuses kind text fault) ∧
    (∀ id : Identifier kind, parse kind id.text = .ok id) ∧
    ∀ left right leftId rightId, parse kind left = .ok leftId → parse kind right = .ok rightId →
      (leftId = rightId ↔ Alike kind left right) := by
  have toNat_iff (id : Identifier kind) (number : Nat) :
      id.value = BitVec.ofNat 128 number ↔ id.value.toNat = number % 2 ^ 128 := by
    rw [← BitVec.toNat_inj, BitVec.toNat_ofNat]
  refine ⟨fun text id => ?_, fun text fault => parse_error_iff, parse_text, ?_⟩
  · simp only [parse_ok_iff, toNat_iff]
  · intro left right leftId rightId parsedLeft parsedRight
    obtain ⟨leftValues, spellsLeft, leftEq⟩ := parse_ok_iff.mp parsedLeft
    obtain ⟨rightValues, spellsRight, rightEq⟩ := parse_ok_iff.mp parsedRight
    rw [toNat_iff] at leftEq rightEq
    rw [← alike_iff spellsLeft spellsRight, ← leftEq, ← rightEq, BitVec.toNat_inj]
    exact ⟨congrArg value, fun same => congrArg mk same⟩

def sampleId : ReceiverId := ⟨2060090837648079193640892498869351324⟩

theorem sampleId_in_both_cases :
    parse .receiver "rcv_01hk153xz8krvqkebz99y1bwww" = .ok sampleId ∧
      parse .receiver "rcv_81HK153XZ8KRVQKEBZ99Y1BWWW" = .ok sampleId ∧
      Alike .receiver "rcv_01hk153xz8krvqkebz99y1bwww" "rcv_81HK153XZ8KRVQKEBZ99Y1BWWW" := by
  have small : parse .receiver "rcv_01hk153xz8krvqkebz99y1bwww" = .ok sampleId := rfl
  have capital : parse .receiver "rcv_81HK153XZ8KRVQKEBZ99Y1BWWW" = .ok sampleId := rfl
  obtain ⟨-, -, -, same_iff⟩ := parse_by_grammar .receiver
  exact ⟨small, capital, (same_iff _ _ _ _ small capital).mp rfl⟩

end EventCorrelation.Identifier
