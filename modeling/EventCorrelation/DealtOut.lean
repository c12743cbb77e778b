/-!
# Dealing out

A list whose items go to one of two receivers each, in their order. What a queue took and what was
given up, or what was marked and what was cut short, are such halves of one list.
-/

namespace EventCorrelation

/-- A list is dealt out to two, each of which keeps the order. -/
inductive DealtOut {α : Type} : List α → List α → List α → Prop where
  | nil : DealtOut [] [] []
  | left (head : α) {whole first second : List α} :
    DealtOut whole first second → DealtOut (head :: whole) (head :: first) second
  | right (head : α) {whole first second : List α} :
    DealtOut whole first second → DealtOut (head :: whole) first (head :: second)

namespace DealtOut

variable {α : Type} {whole first second : List α}

theorem all_left (records : List α) : DealtOut records records [] := by
  induction records with
  | nil => exact .nil
  | cons head rest ih => exact .left head ih

theorem all_right (records : List α) : DealtOut records [] records := by
  induction records with
  | nil => exact .nil
  | cons head rest ih => exact .right head ih

theorem append (dealt : DealtOut whole first second) {more moreFirst moreSecond : List α}
    (dealtMore : DealtOut more moreFirst moreSecond) :
    DealtOut (whole ++ more) (first ++ moreFirst) (second ++ moreSecond) := by
  induction dealt with
  | nil => exact dealtMore
  | left head _ ih => exact .left head ih
  | right head _ ih => exact .right head ih

theorem length_eq (dealt : DealtOut whole first second) :
    whole.length = first.length + second.length := by
  induction dealt with
  | nil => rfl
  | left head _ ih =>
    rw [List.length_cons, List.length_cons, ih, Nat.add_right_comm]
  | right head _ ih =>
    rw [List.length_cons, List.length_cons, ih, Nat.add_assoc]

theorem eq_left (dealt : DealtOut whole first []) : first = whole := by
  induction whole generalizing first with
  | nil => cases dealt; rfl
  | cons head rest ih =>
    cases dealt with
    | left _ dealtRest => rw [ih dealtRest]

/-- The first gets everything just if the second gets nothing. -/
theorem eq_iff (dealt : DealtOut whole first second) : first = whole ↔ second = [] := by
  constructor
  · rintro rfl
    have lengths := dealt.length_eq
    exact List.length_eq_zero_iff.mp (by omega)
  · rintro rfl
    exact dealt.eq_left

end DealtOut

end EventCorrelation
