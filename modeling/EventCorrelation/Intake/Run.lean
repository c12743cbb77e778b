import EventCorrelation.Bus.Run
import EventCorrelation.Intake.Handler
import EventCorrelation.Service.History

/-!
# Runs of the intake

Records are handled one after the other. Between them anything can happen to the producer of the
service: other values are published, its drains take steps, and it is closed.
-/

namespace EventCorrelation

/-- What can happen next to a service. -/
inductive IntakeMove where
  | handle (record : Record)
  | bus (move : ProducerMove)
deriving DecidableEq

/-- The record that is handled. -/
def IntakeMove.record? : IntakeMove → Option Record
  | .handle record => some record
  | .bus _ => none

/-- What comes of a record: the answer, and what was created, with the groups that it completed. -/
structure Handled where
  answer : Except IntakeFault Unit
  creation : Option Creation

namespace EventService

variable {σ τ : Type}

/-- What the command of a record creates, if the record has one that is carried out. -/
def creation? (service : EventService σ) (record : Record) (state : ServiceState σ τ) :
    Option Creation :=
  match record.decode IntakeCommand.decode with
  | .error _ => none
  | .ok command => (service.perform command state).1.toOption

/-- What comes of the records of a schedule, and the state after it. -/
def intakeAll (service : EventService σ) :
    List IntakeMove → ServiceState σ τ → List Handled × ServiceState σ τ
  | [], state => ([], state)
  | .handle record :: rest, state =>
    let (answer, next) := service.handle record state
    let (later, last) := service.intakeAll rest next
    (⟨answer, service.creation? record state⟩ :: later, last)
  | .bus move :: rest, state =>
    service.intakeAll rest { state with producer := state.producer.move move }

end EventService

end EventCorrelation
