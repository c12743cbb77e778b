import EventCorrelation.Service.Basic

/-!
# Calls in progress

The creation of an event in steps that take effect at once each. Between the steps of one call,
steps of others may take place on the same service.
-/

namespace EventCorrelation

/-- How far the creation of an event has come. -/
inductive EventCall where
  /-- Before the look for the receiver. -/
  | requested (new : NewEvent)
  /-- The receiver was found. -/
  | checked (new : NewEvent)
  | stored (event : Event)
  | announced (event : Event)
  /-- Some completions are still to be announced. -/
  | completing (event : Event) (remaining : List ReceiverGroup) (completed : List GroupId)
  | finished (result : Except ServiceFault CreatedEvent)

namespace EventCall

variable {σ τ : Type}

def advance (service : EventService σ) (call : EventCall) (state : ServiceState σ τ) :
    EventCall × ServiceState σ τ :=
  match call with
  | .requested new => match service.requireReceiver new.receiverId state with
    | .error fault => (.finished (.error (.store fault)), state)
    | .ok () => (.checked new, state)
  | .checked new => match service.storeEvent new state with
    | (.error fault, state) => (.finished (.error (.store fault)), state)
    | (.ok event, state) => (.stored event, state)
  | .stored event => (.announced event, service.announceEvent event state)
  | .announced event => match service.store.triggered event state.store with
    | .error fault => (.finished (.error (.store fault)), state)
    | .ok groups => (.completing event groups [], state)
  | .completing event [] completed => (.finished (.ok ⟨event, completed⟩), state)
  | .completing event (group :: rest) completed =>
    let (more, state) := service.announceCompletion event group state
    (.completing event rest (completed ++ more), state)
  | .finished result => (.finished result, state)

/-- The result of a call that is through. -/
def result? : EventCall → Option (Except ServiceFault CreatedEvent)
  | .finished result => some result
  | _ => none

end EventCall

end EventCorrelation
