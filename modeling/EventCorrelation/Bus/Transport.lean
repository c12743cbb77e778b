import EventCorrelation.Bus.Encoder
import EventCorrelation.Json.Members

/-!
# Transports

What carries records to the bus, on two paths: a buffered one, whose outcomes are reported, and one
that waits for the acknowledgment.
-/

namespace EventCorrelation

/-- A record to be published. -/
structure OutboundRecord where
  topic : String
  key : Option String
  value : Encoder

/-- Where a published record stands. -/
structure Delivered where
  topic : String
  partition : Int
  offset : Int
deriving DecidableEq

/-- The place as a JSON value. -/
def Delivered.toJson (delivered : Delivered) : Json :=
  .object [("topic", delivered.topic), ("partition", delivered.partition),
    ("offset", delivered.offset)]

/-- A record that was not published. -/
structure DeliveryFailure where
  topic : String
  fault : BusFault
deriving DecidableEq

/-- The outcome of a record on the buffered path. -/
inductive Report where
  | success (delivered : Delivered)
  | failure (failed : DeliveryFailure)
deriving DecidableEq

/-- The client side of a bus connection, as operations on its state. -/
structure Transport (σ : Type) where
  /-- Takes a record on the buffered path, and perhaps reports its outcome. -/
  enqueue : OutboundRecord → σ → Option Report × σ
  /-- Publishes a record and waits for the acknowledgment. -/
  deliver : OutboundRecord → σ → Except BusFault Delivered × σ
  /-- Gives everything back, the way to report outcomes included. -/
  close : σ → Except BusFault Unit × σ
  /-- Outcomes may still be reported. -/
  mayReport : σ → Bool

/-- The report of an outcome. -/
def Report.ofOutcome (topic : String) : Except BusFault Delivered → Report
  | .ok delivered => .success delivered
  | .error fault => .failure ⟨topic, fault⟩

end EventCorrelation
