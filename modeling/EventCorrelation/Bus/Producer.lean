import EventCorrelation.Bus.ReportLine
import EventCorrelation.Bus.Settings
import EventCorrelation.Bus.Transport

/-!
# Producers

A producer owns a transport, or none if nothing is to be published, and the two lines of reports
that its buffered path fills. Closing gives the transport back; afterwards nothing is published and
nothing is encoded.
-/

namespace EventCorrelation

/-- The kinds of reports. -/
inductive ReportKind where
  | successes
  | failures
deriving DecidableEq

def ReportKind.title : ReportKind → String
  | .successes => "success reports"
  | .failures => "failure reports"

/-- A producer over a transport with states `σ`. -/
structure Producer (σ : Type) where
  transport : Option (Transport σ)
  state : σ
  isClosed : Bool
  successes : ReportLine Delivered
  failures : ReportLine DeliveryFailure

namespace Producer

variable {σ : Type}

/-- A producer over a transport, with room for the given number of reports of each kind. -/
def ofTransport (capacity : Nat) (transport : Transport σ) (state : σ) : Producer σ where
  transport := some transport
  state
  isClosed := false
  successes := .empty capacity
  failures := .empty capacity

/-- A producer that publishes nothing. -/
def disabled (state : σ) : Producer σ where
  transport := none
  state
  isClosed := false
  successes := .empty 1
  failures := .empty 1

/-- A producer by its settings: disabled without brokers, else over a transport once the settings
pass. -/
def connect (process : String) (settings : ProducerSettings) (transport : Transport σ)
    (state : σ) : Except BusFault (Producer σ) :=
  if settings.isEnabled then do
    let _ ← settings.properties process
    return .ofTransport settings.reportCapacity transport state
  else .ok (disabled state)

def isEnabled (producer : Producer σ) : Bool := producer.transport.isSome

/-- Outcomes may still be reported. -/
def mayReport (producer : Producer σ) : Bool :=
  producer.transport.any fun transport => transport.mayReport producer.state

/-- Puts a report into its line. -/
def file (report : Report) (producer : Producer σ) : Producer σ :=
  match report with
  | .success delivered => { producer with successes := producer.successes.push delivered }
  | .failure failed => { producer with failures := producer.failures.push failed }

/-- Publishes a value and waits for the acknowledgment. A disabled producer answers with nothing. -/
def send (topic : String) (key : Option String) (content : Content) (producer : Producer σ) :
    Except BusFault (Option Delivered) × Producer σ :=
  if producer.isClosed then (.error .closed, producer)
  else match producer.transport with
    | none => (.ok none, producer)
    | some transport =>
      let (outcome, state) := transport.deliver ⟨topic, key, .ofContent content⟩ producer.state
      (outcome.map some, { producer with state })

/-- Publishes a value on the buffered path. -/
def sendAsync (topic : String) (key : Option String) (content : Content)
    (producer : Producer σ) : Producer σ :=
  if producer.isClosed then producer
  else match producer.transport with
    | none => producer
    | some transport =>
      let (report, state) := transport.enqueue ⟨topic, key, .ofContent content⟩ producer.state
      let producer := { producer with state }
      match report with
      | none => producer
      | some report => producer.file report

/-- Starts the drain of a kind of reports, once. -/
def startDrain (kind : ReportKind) (producer : Producer σ) :
    Except BusFault Unit × Producer σ :=
  match kind with
  | .successes => match producer.successes.start? with
    | none => (.error (.alreadyDraining kind.title), producer)
    | some line => (.ok (), { producer with successes := line })
  | .failures => match producer.failures.start? with
    | none => (.error (.alreadyDraining kind.title), producer)
    | some line => (.ok (), { producer with failures := line })

/-- Tells the drain of a kind of reports to stop. -/
def requestStop (kind : ReportKind) (producer : Producer σ) : Producer σ :=
  match kind with
  | .successes => { producer with successes := producer.successes.requestStop }
  | .failures => { producer with failures := producer.failures.requestStop }

/-- A step of the drain of a kind of reports, if it can take one. -/
def stepDrain? (kind : ReportKind) (producer : Producer σ) : Option (Producer σ) :=
  match kind with
  | .successes => (producer.successes.step? producer.mayReport).map fun line =>
      { producer with successes := line }
  | .failures => (producer.failures.step? producer.mayReport).map fun line =>
      { producer with failures := line }

/-- The producer once its drains can do no more. -/
def settle (producer : Producer σ) : Producer σ :=
  { producer with
    successes := producer.successes.settle producer.mayReport
    failures := producer.failures.settle producer.mayReport }

/-- The number of reports that the ended drain of a kind has consumed. -/
def drained? (kind : ReportKind) (producer : Producer σ) : Option Nat :=
  match kind with
  | .successes => producer.successes.result?
  | .failures => producer.failures.result?

/-- Gives the transport back, once. -/
def close (producer : Producer σ) : Except BusFault Unit × Producer σ :=
  if producer.isClosed then (.ok (), producer)
  else
    let producer := { producer with isClosed := true }
    match producer.transport with
    | none => (.ok (), producer)
    | some transport =>
      let (outcome, state) := transport.close producer.state
      (outcome, { producer with state })

end Producer

end EventCorrelation
