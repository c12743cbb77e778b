import EventCorrelation.Bus.Record
import EventCorrelation.Intake.Command
import EventCorrelation.Service.Basic

/-!
# Handling intake records

Every record of the intake topic carries one command, which is applied through the service.
-/

namespace EventCorrelation

/-- Why a record could not be handled. -/
inductive IntakeFault where
  | undecodable (position : String) (complaint : Json.Complaint)
  | failed (kind : IntakeCommand.Kind) (fault : ServiceFault)
deriving DecidableEq

namespace IntakeFault

/-- What was being done. -/
def context : IntakeFault → String
  | .undecodable position _ => "undecodable intake command at " ++ position
  | .failed kind _ => kind.text ++ " failed"

def message (fault : IntakeFault) : String :=
  fault.context ++ ": " ++ match fault with
    | .undecodable _ complaint => complaint.message
    | .failed _ fault => fault.message

end IntakeFault

namespace EventService

variable {σ τ : Type}

/-- Applies a command. -/
def apply (service : EventService σ) (command : IntakeCommand) (state : ServiceState σ τ) :
    Except ServiceFault Unit × ServiceState σ τ :=
  match command with
  | .createEvent new =>
    let (outcome, state) := service.createEvent new state
    (outcome.map fun _ => (), state)
  | .createReceiver new =>
    let (outcome, state) := service.createReceiver new state
    (outcome.map fun _ => (), state)
  | .createGroup new =>
    let (outcome, state) := service.createGroup new state
    (outcome.map fun _ => (), state)

/-- Handles a record. -/
def handle (service : EventService σ) (record : Record) (state : ServiceState σ τ) :
    Except IntakeFault Unit × ServiceState σ τ :=
  match record.decode IntakeCommand.decode with
  | .error complaint => (.error (.undecodable record.position complaint), state)
  | .ok command =>
    let (outcome, state) := service.apply command state
    (outcome.mapError (.failed command.kind), state)

/-- Handles records one after the other. -/
def handleAll (service : EventService σ) :
    List Record → ServiceState σ τ → List (Except IntakeFault Unit) × ServiceState σ τ
  | [], state => ([], state)
  | record :: rest, state =>
    let (outcome, state) := service.handle record state
    let (later, state) := service.handleAll rest state
    (outcome :: later, state)

/-- Handles a record as a worker does, who says no more of a failure than that there was one. -/
def work (service : EventService σ) (record : Record) (state : ServiceState σ τ) :
    Bool × ServiceState σ τ :=
  let (outcome, state) := service.handle record state
  (outcome.isOk, state)

end EventService

end EventCorrelation
