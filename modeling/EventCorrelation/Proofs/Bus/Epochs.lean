import EventCorrelation.Bus.Assignment
import Mathlib.Data.List.Basic
import Mathlib.Data.List.Induction

/-!
# Epochs of assignments

A member is told of assignments and revocations, in any order and any number of times. What it holds
then depends on two things: the last change, and how many assignments there have been. The second is
the epoch. As every assignment counts, no later one has the epoch of an earlier one, and a session
that goes by its epoch alone ends with the first change after its beginning, even if it looks only
after the same partitions have come back.
-/

namespace EventCorrelation

namespace Rebalance

def isAssigned : Rebalance → Bool
  | .assigned _ => true
  | .revoked => false

/-- What a change leaves to the member. -/
def partitions : Rebalance → List (String × Int)
  | .assigned partitions => partitions
  | .revoked => []

end Rebalance

namespace Assignment

variable {assignment : Assignment} {earlier between history : List Rebalance} {epoch : Nat}

@[simp]
theorem isHeld_apply (change : Rebalance) (assignment : Assignment) :
    (assignment.apply change).isHeld = change.isAssigned := by
  cases change <;> rfl

@[simp]
theorem partitions_apply (change : Rebalance) (assignment : Assignment) :
    (assignment.apply change).partitions = change.partitions := by
  cases change <;> rfl

theorem epoch_apply (change : Rebalance) (assignment : Assignment) :
    (assignment.apply change).epoch =
      assignment.epoch + if change.isAssigned then 1 else 0 := by
  cases change <;> rfl

theorem after_concat (history : List Rebalance) (last : Rebalance) :
    after (history ++ [last]) = (after history).apply last := by
  rw [after, List.foldl_append]
  rfl

/-- Revocations leave the epoch alone, so that it counts the assignments. -/
theorem epoch_after (history : List Rebalance) :
    (after history).epoch = history.countP Rebalance.isAssigned := by
  induction history using List.reverseRecOn with
  | nil => rfl
  | append_singleton before last ih =>
    rw [after_concat, epoch_apply, ih, List.countP_append, List.countP_singleton]

theorem current?_eq_some_iff :
    assignment.current? = some epoch ↔ assignment.isHeld = true ∧ assignment.epoch = epoch := by
  cases held : assignment.isHeld <;> simp [current?, held]

theorem current?_eq_none_iff : assignment.current? = Option.none ↔ assignment.isHeld = false := by
  cases held : assignment.isHeld <;> simp [current?, held]

theorem holds_iff : assignment.holds epoch = true ↔ assignment.current? = some epoch :=
  beq_iff_eq

/-- An assignment begins the epoch of its own number. -/
theorem current?_assigned (history : List Rebalance) (partitions : List (String × Int)) :
    (after (history ++ [.assigned partitions])).current? =
      some (history.countP Rebalance.isAssigned + 1) := by
  rw [current?_eq_some_iff, after_concat, isHeld_apply, epoch_apply, epoch_after]
  exact ⟨rfl, rfl⟩

/-- Once anything has changed, an epoch that was current before is so no more: either the last change
is a revocation, or it is an assignment and has moved the epoch on. -/
theorem current?_ne_of_changed (current : (after earlier).current? = some epoch)
    (changed : between ≠ []) : (after (earlier ++ between)).current? ≠ some epoch := by
  intro again
  obtain ⟨before, last, rfl⟩ := (List.eq_nil_or_concat' between).resolve_left changed
  obtain ⟨-, counted⟩ := current?_eq_some_iff.mp current
  obtain ⟨isHeld, countedAgain⟩ := current?_eq_some_iff.mp again
  have bringsOne : last.isAssigned = true := by
    rw [← List.append_assoc, after_concat, isHeld_apply] at isHeld
    exact isHeld
  rw [epoch_after] at counted
  rw [epoch_after, List.countP_append, List.countP_append, List.countP_singleton,
    if_pos bringsOne] at countedAgain
  omega

theorem holds_append_iff (current : (after earlier).current? = some epoch) :
    (after (earlier ++ between)).holds epoch = true ↔ between = [] := by
  rw [holds_iff]
  constructor
  · intro again
    by_contra changed
    exact current?_ne_of_changed current changed again
  · rintro rfl
    rw [List.append_nil]
    exact current

/-- A revocation takes the partitions with it. -/
theorem partitions_of_notHeld (notHeld : (after history).isHeld = false) :
    (after history).partitions = [] := by
  rcases List.eq_nil_or_concat' history with rfl | ⟨before, last, rfl⟩
  · rfl
  · rw [after_concat, isHeld_apply] at notHeld
    rw [after_concat, partitions_apply]
    cases last with
    | assigned partitions => cases notHeld
    | revoked => rfl

/-- The epoch that is current at some point stands for the assignment of that point and for no other:
later it is held just if there has been no change since, assignment or revocation, and once it is not
held it never is again. Every assignment has an epoch, greater than those of all assignments before
it. While no assignment is held, there are no partitions. -/
theorem epoch_identifies_assignment :
    (∀ (earlier between later : List Rebalance) (epoch : Nat),
      (after earlier).current? = some epoch →
        ((after (earlier ++ between)).holds epoch = true ↔ between = []) ∧
        ((after (earlier ++ between)).holds epoch = false →
          (after (earlier ++ between ++ later)).holds epoch = false)) ∧
    (∀ (earlier between : List Rebalance) (first second : List (String × Int)),
      ∃ firstEpoch secondEpoch,
        (after (earlier ++ [.assigned first])).current? = some firstEpoch ∧
        (after (earlier ++ [.assigned first] ++ between ++ [.assigned second])).current? =
          some secondEpoch ∧
        firstEpoch < secondEpoch) ∧
    ∀ history : List Rebalance,
      (after history).current? = Option.none → (after history).partitions = [] := by
  refine ⟨?_, ?_, ?_⟩
  · intro earlier between later epoch current
    refine ⟨holds_append_iff current, fun lost => ?_⟩
    rw [← Bool.not_eq_true, holds_append_iff current] at lost
    rw [← Bool.not_eq_true, List.append_assoc, holds_append_iff current, List.append_eq_nil_iff]
    exact fun unchanged => lost unchanged.1
  · intro earlier between first second
    refine ⟨_, _, current?_assigned .., current?_assigned .., ?_⟩
    simp only [List.countP_append, List.countP_singleton, Rebalance.isAssigned, if_true]
    omega
  · intro history nothing
    exact partitions_of_notHeld (current?_eq_none_iff.mp nothing)

/-- The same partitions come back as another assignment, and leave with it. -/
theorem same_partitions_in_other_epoch :
    let intake := [("quorum.intake", 0)]
    let history := [.assigned intake, .revoked, .assigned intake]
    (after [.assigned intake]).current? = some 1 ∧ (after history).partitions = intake ∧
      (after history).holds 1 = false ∧ (after (history ++ [.revoked])).holds 1 = false ∧
      (∃ first second, (after [.assigned intake]).current? = some first ∧
        (after history).current? = some second ∧ first < second) ∧
      (after (history ++ [.revoked])).current? = Option.none ∧
      (after (history ++ [.revoked])).partitions = [] := by
  intro intake history
  obtain ⟨identified, increasing, cleared⟩ := epoch_identifies_assignment
  have current : (after [.assigned intake]).current? = some 1 := rfl
  obtain ⟨held, lost⟩ :=
    identified [.assigned intake] [.revoked, .assigned intake] [.revoked] 1 current
  have notHeld : (after history).holds 1 = false := by
    rw [← Bool.not_eq_true]
    intro again
    cases held.mp again
  have nothing : (after (history ++ [.revoked])).current? = Option.none := rfl
  exact ⟨current, rfl, notHeld, lost notHeld, increasing [] [.revoked] intake intake, nothing,
    cleared _ nothing⟩

end Assignment

end EventCorrelation
