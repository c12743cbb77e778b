import EventCorrelation.Bus.Fault
import EventCorrelation.Bus.Record

/-!
# Sessions

What a broker does for one membership in a consumer group, from joining the group until the
membership ends, with the times that it takes.
-/

namespace EventCorrelation

structure Session where
  /-- How long it takes to join. -/
  joinMillis : Nat
  /-- Joining fails. -/
  refusal : Option BusFault
  /-- How often the member is told that the session is set up. -/
  setUps : Nat
  /-- The records of the claim. -/
  records : List Record
  /-- How long each record takes to come. -/
  gapMillis : Nat
  /-- How long the claim stays open after its last record. -/
  tailMillis : Nat
  /-- The session ends with this fault. -/
  ending : Option BusFault
deriving DecidableEq

end EventCorrelation
