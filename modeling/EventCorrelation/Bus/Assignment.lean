/-!
# Assignments of partitions

The partitions that a member of a consumer group holds, as the broker last told it. Every assignment
has an epoch of its own, so that a session can tell its assignment from a later one of the same
partitions.
-/

namespace EventCorrelation

/-- What the broker tells a member. -/
inductive Rebalance where
  | assigned (partitions : List (String × Int))
  | revoked
deriving DecidableEq

structure Assignment where
  epoch : Nat
  isHeld : Bool
  partitions : List (String × Int)
deriving DecidableEq

namespace Assignment

/-- No assignment so far. -/
def none : Assignment := ⟨0, false, []⟩

/-- The assignment after a change. -/
def apply (change : Rebalance) (assignment : Assignment) : Assignment :=
  match change with
  | .assigned partitions => ⟨assignment.epoch + 1, true, partitions⟩
  | .revoked => { assignment with isHeld := false, partitions := [] }

/-- What a member holds that was told of these changes, the oldest first. -/
def after (history : List Rebalance) : Assignment :=
  history.foldl (fun assignment change => assignment.apply change) none

/-- The epoch of the assignment that is held. -/
def current? (assignment : Assignment) : Option Nat :=
  if assignment.isHeld then some assignment.epoch else Option.none

/-- A session that began in the epoch may go on. -/
def holds (epoch : Nat) (assignment : Assignment) : Bool :=
  assignment.current? == some epoch

end Assignment

end EventCorrelation
