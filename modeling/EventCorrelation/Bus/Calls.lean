import EventCorrelation.Bus.MemoryLog
import EventCorrelation.Bus.Trace

/-!
# Calls of a transport

Calls that a transport gets one after the other, on either path: what it answers to them, and what
they leave behind.
-/

namespace EventCorrelation

def Report.outcome : Report → Except BusFault Delivered
  | .success delivered => .ok delivered
  | .failure failed => .error failed.fault

namespace Transport

variable {σ : Type}

/-- What is said about the record of a call: the acknowledgment that it waits for, or the report. -/
def answer? (transport : Transport σ) (state : σ) :
    TransportCall → Option (Except BusFault Delivered)
  | .enqueue record => (transport.enqueue record state).1.map Report.outcome
  | .deliver record => some (transport.deliver record state).1
  | .close => none

/-- The state after a call. -/
def after (transport : Transport σ) (state : σ) : TransportCall → σ
  | .enqueue record => (transport.enqueue record state).2
  | .deliver record => (transport.deliver record state).2
  | .close => (transport.close state).2

def afterAll (transport : Transport σ) (calls : List TransportCall) (state : σ) : σ :=
  calls.foldl transport.after state

theorem afterAll_cons (transport : Transport σ) (call : TransportCall) (rest : List TransportCall)
    (state : σ) :
    transport.afterAll (call :: rest) state =
      transport.afterAll rest (transport.after state call) := rfl

/-- The places of records that are answered along calls. -/
def placesAlong (transport : Transport σ) : List TransportCall → σ → List Delivered
  | [], _ => []
  | call :: rest, state =>
    ((transport.answer? state call).bind Except.toOption).toList ++
      placesAlong transport rest (transport.after state call)

end Transport

/-- The record that a call adds to a log which refuses none. -/
def TransportCall.published? (call : TransportCall) : Option PublishedRecord :=
  call.record?.bind fun record =>
    record.value.encode.1.toOption.map fun payload => ⟨record.topic, record.key, payload⟩

end EventCorrelation
