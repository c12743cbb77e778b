import EventCorrelation.Identifier.Basic
import EventCorrelation.Time.Timestamp

/-!
# Supplies of identifiers and times

What a service gets from outside whenever it creates something: the next number for an identifier
and the current time.
-/

namespace EventCorrelation

/-- The numbers and the times that are drawn one after the other. -/
structure Supply where
  number : Nat → BitVec 128
  time : Nat → Timestamp

namespace Supply

/-- The identifier that a draw gives. -/
def id (kind : EntityKind) (supply : Supply) (draw : Nat) : Identifier kind :=
  ⟨supply.number draw⟩

/-- No number comes up twice among the first draws. -/
def DistinctBelow (supply : Supply) (bound : Nat) : Prop :=
  ∀ first < bound, ∀ second < bound, supply.number first = supply.number second → first = second

end Supply

end EventCorrelation
