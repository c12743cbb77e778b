import EventCorrelation.Bus.Run

/-!
# Traces of transports

What a producer asks of its transport, in order. A traced transport does what it did before and
notes every call.
-/

namespace EventCorrelation

variable {σ : Type}

inductive TransportCall where
  | enqueue (record : OutboundRecord)
  | deliver (record : OutboundRecord)
  | close

namespace TransportCall

def isClose : TransportCall → Bool
  | .close => true
  | _ => false

/-- The record that is handed over. -/
def record? : TransportCall → Option OutboundRecord
  | .enqueue record => some record
  | .deliver record => some record
  | .close => none

/-- How often values are encoded along the calls if the transport wants the bytes of every value that
it gets. -/
def encodings : List TransportCall → Nat
  | [] => 0
  | call :: rest => call.record?.elim 0 (·.value.force.runs) + encodings rest

end TransportCall

/-- The transport with a note of every call in its state. -/
def Transport.traced (transport : Transport σ) : Transport (σ × List TransportCall) where
  enqueue record noted :=
    let (report, state) := transport.enqueue record noted.1
    (report, state, noted.2 ++ [.enqueue record])
  deliver record noted :=
    let (outcome, state) := transport.deliver record noted.1
    (outcome, state, noted.2 ++ [.deliver record])
  close noted :=
    let (outcome, state) := transport.close noted.1
    (outcome, state, noted.2 ++ [.close])
  mayReport noted := transport.mayReport noted.1

/-- The call by which an open producer makes a move. Moves on the drains need none. -/
def ProducerMove.call? : ProducerMove → Option TransportCall
  | .send topic key content => some (.deliver ⟨topic, key, .ofContent content⟩)
  | .sendAsync topic key content => some (.enqueue ⟨topic, key, .ofContent content⟩)
  | .close => some .close
  | _ => none

def ProducerMove.isPublishing : ProducerMove → Bool
  | .send .. | .sendAsync .. => true
  | _ => false

/-- The calls of a transport that a schedule makes: those of its moves up to the first closing. -/
def ProducerMove.calls : List ProducerMove → List TransportCall
  | [] => []
  | .close :: _ => [.close]
  | move :: rest => move.call?.toList ++ calls rest

namespace Producer

/-- A producer over a transport or over none. -/
def opened (capacity : Nat) (transport : Option (Transport σ)) (state : σ) : Producer σ :=
  match transport with
  | none => disabled state
  | some transport => ofTransport capacity transport state

/-- The producer over a traced transport as one over the transport itself. -/
def untraced (transport : Option (Transport σ)) (producer : Producer (σ × List TransportCall)) :
    Producer σ where
  transport
  state := producer.state.1
  isClosed := producer.isClosed
  successes := producer.successes
  failures := producer.failures

/-- The number of drains of a kind that are handed out along a schedule. -/
def handedOut (kind : ReportKind) : List ProducerMove → Producer σ → Nat
  | [], _ => 0
  | move :: rest, producer =>
    (if move = .startDrain kind ∧ (producer.startDrain kind).1.isOk then 1 else 0) +
      handedOut kind rest (producer.move move)

end Producer

end EventCorrelation
