import EventCorrelation.Proofs.Identifier.RoundTrip
import Mathlib.Data.List.Sort

/-!
# The order of identifiers

Identifiers of one kind are ordered like the bytes of their texts. Their numerals have the same
width and begin with the most significant digit, and the digits are in the order of their bytes, so
the first place where two numerals differ decides for both orders. The first digits hold the creation
time: sorting the texts sorts by age.
-/

namespace EventCorrelation

namespace Base32

/-- Rows of the same length are compared at their last places if everything in front is the same. -/
theorem compare_concat {front otherFront : List UInt8} (sameLength : front.length = otherFront.length)
    (last otherLast : UInt8) :
    compare (front ++ [last]) (otherFront ++ [otherLast]) =
      (compare front otherFront).then (compare last otherLast) := by
  induction front generalizing otherFront with
  | nil =>
    obtain rfl : otherFront = [] := List.eq_nil_of_length_eq_zero sameLength.symm
    cases compared : compare last otherLast <;> simp [List.compare_cons_cons, compared]
  | cons byte rest ih =>
    cases otherFront with
    | nil => cases sameLength
    | cons otherByte otherRest =>
      rw [List.cons_append, List.cons_append, List.compare_cons_cons, List.compare_cons_cons,
        ih (Nat.succ.inj sameLength), Ordering.then_assoc]

theorem compare_append_left (front back otherBack : List UInt8) :
    compare (front ++ back) (front ++ otherBack) = compare back otherBack := by
  induction front with
  | nil => rfl
  | cons byte rest ih =>
    rw [List.cons_append, List.cons_append, List.compare_cons_cons, Std.compare_self, ih]
    rfl

/-- Numbers are compared by what stands in front of the last digit, and then by the last digit. -/
theorem compare_div_mod (left right base : Nat) :
    compare left right = (compare (left / base) (right / base)).then
      (compare (left % base) (right % base)) := by
  have leftSplit := Nat.div_add_mod left base
  have rightSplit := Nat.div_add_mod right base
  rcases Nat.lt_trichotomy (left / base) (right / base) with smaller | same | larger
  · rw [Nat.compare_eq_lt.mpr smaller, Nat.compare_eq_lt.mpr]
    · rfl
    · exact Nat.lt_of_not_le fun notSmaller =>
        Nat.not_le_of_lt smaller (Nat.div_le_div_right notSmaller)
  · rw [Nat.compare_eq_eq.mpr same, Ordering.then]
    rw [same] at leftSplit
    rcases Nat.lt_trichotomy (left % base) (right % base) with smaller | same | larger
    · rw [Nat.compare_eq_lt.mpr smaller, Nat.compare_eq_lt.mpr (by omega)]
    · rw [Nat.compare_eq_eq.mpr same, Nat.compare_eq_eq.mpr (by omega)]
    · rw [Nat.compare_eq_gt.mpr larger, Nat.compare_eq_gt.mpr (by omega)]
  · rw [Nat.compare_eq_gt.mpr larger, Nat.compare_eq_gt.mpr]
    · rfl
    · exact Nat.lt_of_not_le fun notLarger =>
        Nat.not_le_of_lt larger (Nat.div_le_div_right notLarger)

/-- The digits are in the order of their bytes. -/
theorem compare_digit : ∀ left < 32, ∀ right < 32,
    compare (UInt8.ofNat (digit left).toNat) (UInt8.ofNat (digit right).toNat) =
      compare left right := by
  decide +kernel

theorem bytes_encode_succ (width value : Nat) :
    Text.encode (encode (width + 1) value) =
      Text.encode (encode width (value / 32)) ++ [UInt8.ofNat (digit (value % 32)).toNat] := by
  rw [encode, Text.encode_append, Text.encode_cons, Text.encodeChar_of_ascii (digit_ascii _)]
  rfl

theorem length_bytes_encode (width value : Nat) :
    (Text.encode (encode width value)).length = width := by
  rw [Text.encode_of_ascii fun symbol => ascii_of_mem_encode, List.length_map, length_encode]

/-- Numerals of one width are in the order of their numbers, as long as no digit is dropped. -/
theorem compare_encode {width left right : Nat} (leftFits : left < 32 ^ width)
    (rightFits : right < 32 ^ width) :
    compare (Text.encode (encode width left)) (Text.encode (encode width right)) =
      compare left right := by
  induction width generalizing left right with
  | zero =>
    obtain rfl : left = 0 := by omega
    obtain rfl : right = 0 := by omega
    rfl
  | succ width ih =>
    have front : compare (Text.encode (encode width (left / 32)))
        (Text.encode (encode width (right / 32))) = compare (left / 32) (right / 32) := by
      apply ih
      · exact Nat.div_lt_of_lt_mul (by rwa [← Nat.pow_succ'])
      · exact Nat.div_lt_of_lt_mul (by rwa [← Nat.pow_succ'])
    have last : compare (UInt8.ofNat (digit (left % 32)).toNat)
        (UInt8.ofNat (digit (right % 32)).toNat) = compare (left % 32) (right % 32) :=
      compare_digit _ (Nat.mod_lt _ (by decide)) _ (Nat.mod_lt _ (by decide))
    have sameLength : (Text.encode (encode width (left / 32))).length =
        (Text.encode (encode width (right / 32))).length := by
      rw [length_bytes_encode, length_bytes_encode]
    rw [bytes_encode_succ, bytes_encode_succ, compare_concat sameLength, front, last,
      compare_div_mod left right 32]

end Base32

namespace Identifier

variable {kind : EntityKind}

theorem compare_text (left right : Identifier kind) :
    compare (Text.bytes left.text) (Text.bytes right.text) = compare left right := by
  have fits (id : Identifier kind) : id.value.toNat < 32 ^ numeralWidth :=
    Nat.lt_of_lt_of_le id.value.isLt (by decide)
  have bytes (id : Identifier kind) : Text.bytes id.text =
      Text.encode (kind.tag ++ "_").toList ++
        Text.encode (Base32.encode numeralWidth id.value.toNat) := by
    rw [Text.bytes_eq_encode, text, String.toList_append, Text.encode_append, String.toList_ofList]
  rw [bytes, bytes, Base32.compare_append_left, Base32.compare_encode (fits left) (fits right)]
  rfl

theorem compare_of_millis_lt {left right : Identifier kind} (earlier : left.millis < right.millis) :
    compare left right = .lt := by
  refine Nat.compare_eq_lt.mpr (Nat.lt_of_not_le fun notSmaller => ?_)
  exact Nat.not_le_of_lt earlier (Nat.div_le_div_right notSmaller)

theorem millis_le_of_isLE {left right : Identifier kind} (ordered : (compare left right).isLE) :
    left.millis ≤ right.millis := by
  refine Nat.div_le_div_right (Nat.le_of_not_lt fun larger => ?_)
  have compared : compare left right = .gt := Nat.compare_eq_gt.mpr larger
  rw [compared] at ordered
  cases ordered

theorem millis_lt (id : Identifier kind) : id.millis < 2 ^ 48 := by
  have bound := id.value.isLt
  exact Nat.div_lt_of_lt_mul bound

/-- Texts of which neither comes before the other are the same. -/
theorem eq_of_isLE_of_isLE {left right : String}
    (first : (compare (Text.bytes left) (Text.bytes right)).isLE)
    (second : (compare (Text.bytes right) (Text.bytes left)).isLE) : left = right :=
  Text.bytes_inj.mp (Std.LawfulEqOrd.eq_of_compare (Std.OrientedCmp.isLE_antisymm first second))

/-- Two identifiers of one kind compare as the bytes of their texts do, and the one with the smaller
time of 48 bits is the smaller one. So however identifiers are sorted and their texts are sorted, the
same sequence comes out, and it goes by age. -/
theorem text_order_is_time_order (kind : EntityKind) :
    (∀ left right : Identifier kind,
      compare left right = compare (Text.bytes left.text) (Text.bytes right.text) ∧
      left.millis < 2 ^ 48 ∧ (left.millis < right.millis → compare left right = .lt)) ∧
    ∀ (ids sorted : List (Identifier kind)) (texts : List String),
      sorted.Perm ids → sorted.Pairwise (fun left right => (compare left right).isLE) →
      texts.Perm (ids.map text) →
      texts.Pairwise (fun left right =>
        (compare (Text.bytes left) (Text.bytes right)).isLE) →
      sorted.map text = texts ∧
        sorted.Pairwise fun left right => left.millis ≤ right.millis := by
  constructor
  · intro left right
    exact ⟨(compare_text left right).symm, left.millis_lt, compare_of_millis_lt⟩
  · intro ids sorted texts sortedPerm sortedOrder textsPerm textsOrder
    have mappedOrder : (sorted.map text).Pairwise fun left right =>
        (compare (Text.bytes left) (Text.bytes right)).isLE := by
      rw [List.pairwise_map]
      refine sortedOrder.imp fun {left right} ordered => ?_
      rwa [compare_text]
    refine ⟨?_, sortedOrder.imp millis_le_of_isLE⟩
    have sameTexts : (sorted.map text).Perm texts := (sortedPerm.map text).trans textsPerm.symm
    exact sameTexts.eq_of_pairwise (fun _ _ _ _ => eq_of_isLE_of_isLE) mappedOrder textsOrder

def elderId : EventId := ⟨BitVec.ofNat 128 (5 * 2 ^ 80 - 1)⟩

def youngerId : EventId := ⟨BitVec.ofNat 128 (5 * 2 ^ 80)⟩

/-- The elder of two identifiers has the larger digits behind its time. -/
theorem elderId_sorts_first :
    compare elderId youngerId = .lt ∧
      [elderId, youngerId].map text =
        ["evt_0000000004ZZZZZZZZZZZZZZZZ", "evt_00000000050000000000000000"] := by
  obtain ⟨ordered, sorts⟩ := text_order_is_time_order .event
  have earlier : elderId.millis < youngerId.millis := by decide
  have compared : compare elderId youngerId = .lt := (ordered elderId youngerId).2.2 earlier
  have elderText : elderId.text = "evt_0000000004ZZZZZZZZZZZZZZZZ" := by cbv
  have youngerText : youngerId.text = "evt_00000000050000000000000000" := by cbv
  refine ⟨compared, (sorts [youngerId, elderId] _ _ (.swap ..) ?_ ?_ ?_).1⟩
  · simp [compared]
  · rw [List.map_cons, List.map_singleton, elderText, youngerText]
    exact .swap ..
  · simp only [← elderText, ← youngerText]
    simp [compare_text, compared]

end Identifier

end EventCorrelation
