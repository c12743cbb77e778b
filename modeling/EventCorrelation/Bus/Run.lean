import EventCorrelation.Bus.DrainHandle
import EventCorrelation.Bus.MemoryLog
import EventCorrelation.DealtOut

/-!
# Runs of a producer

Everything that can happen to a producer over a log in memory, in any order: values are published on
either path, drains are started, take steps and are told to stop, and the producer is closed.

The two lines hold reports of different types. To speak of both at once, a line is read as one of
reports of either kind.
-/

namespace EventCorrelation

/-- What can happen next to a producer. -/
inductive ProducerMove where
  | send (topic : String) (key : Option String) (content : Content)
  | sendAsync (topic : String) (key : Option String) (content : Content)
  | close
  | startDrain (kind : ReportKind)
  | requestStop (kind : ReportKind)
  | stepDrain (kind : ReportKind)
deriving DecidableEq

def Report.kind : Report → ReportKind
  | .success _ => .successes
  | .failure _ => .failures

namespace ReportLine

variable {α β : Type}

/-- The line with its reports read in another way. -/
def map (read : α → β) (line : ReportLine α) : ReportLine β where
  capacity := line.capacity
  waiting := line.waiting.map read
  discarded := line.discarded
  drain := line.drain

/-- The number of reports that the drain has consumed so far. -/
def drained (line : ReportLine α) : Nat :=
  match line.drain with
  | .notStarted => 0
  | .running drained _ => drained
  | .ended drained => drained

/-- The number of reports that were not discarded. -/
def taken (line : ReportLine α) : Nat := line.drained + line.waiting.length

/-- Of all these reports, in their order, some were discarded, the first of the others were consumed,
and the rest of them wait. -/
def Accounts (reports : List α) (line : ReportLine α) : Prop :=
  ∃ consumed lost, DealtOut reports (consumed ++ line.waiting) lost ∧
    consumed.length = line.drained ∧ lost.length = line.discarded

end ReportLine

namespace Producer

variable {σ : Type}

/-- The line of the reports of a kind. -/
def line (kind : ReportKind) (producer : Producer σ) : ReportLine Report :=
  match kind with
  | .successes => producer.successes.map .success
  | .failures => producer.failures.map .failure

/-- The producer after a move. A move that cannot be made changes nothing. -/
def move (producer : Producer σ) : ProducerMove → Producer σ
  | .send topic key content => (producer.send topic key content).2
  | .sendAsync topic key content => producer.sendAsync topic key content
  | .close => producer.close.2
  | .startDrain kind => (producer.startDrain kind).2
  | .requestStop kind => producer.requestStop kind
  | .stepDrain kind => (producer.stepDrain? kind).getD producer

/-- The producer after the moves of a schedule. -/
def moveAll (schedule : List ProducerMove) (producer : Producer σ) : Producer σ :=
  schedule.foldl move producer

/-- The report that is due for a move: the outcome of a record on the buffered path. -/
def due (producer : Producer MemoryLog) : ProducerMove → List Report
  | .sendAsync topic key content =>
    if producer.isClosed then []
    else [.ofOutcome topic (producer.state.append ⟨topic, key, .ofContent content⟩).1]
  | _ => []

/-- The reports that are due along a schedule. -/
def dueAlong : List ProducerMove → Producer MemoryLog → List Report
  | [], _ => []
  | move :: rest, producer => producer.due move ++ dueAlong rest (producer.move move)

/-- The reports of a kind that are due along a schedule. -/
def dueOf (kind : ReportKind) (schedule : List ProducerMove) (producer : Producer MemoryLog) :
    List Report :=
  (producer.dueAlong schedule).filter (·.kind == kind)

end Producer

end EventCorrelation
