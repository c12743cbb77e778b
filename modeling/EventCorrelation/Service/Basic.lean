import EventCorrelation.Bus.Producer
import EventCorrelation.Identifier.Supply
import EventCorrelation.Message
import EventCorrelation.Store.Basic

/-!
# The service

Creating an entity checks what it refers to, stores it and announces it. Creating an event also
announces the groups that it completes; every qualifying event announces them again. Announcements
take the buffered path, so the state of the bus never decides whether something is stored.
-/

namespace EventCorrelation

/-- Why the service refuses a request. -/
inductive ServiceFault where
  | invalid (reason : String)
  | store (fault : StoreFault)
deriving DecidableEq

def ServiceFault.message : ServiceFault → String
  | .invalid reason => "invalid request: " ++ reason
  | .store fault => fault.message

/-- A new event, and the groups whose completion was announced because of it. -/
structure CreatedEvent where
  event : Event
  completed : List GroupId
deriving DecidableEq

/-- A service over a store with states `σ`, which announces to a topic. -/
structure EventService (σ : Type) where
  store : Store σ
  topic : String
  supply : Supply

/-- The state of a service: its store, its producer and the number of draws from its supply. -/
structure ServiceState (σ τ : Type) where
  store : σ
  producer : Producer τ
  drawn : Nat

namespace EventService

variable {σ τ : Type}

def announce (service : EventService σ) (key : String) (message : MessageId → Message)
    (state : ServiceState σ τ) : ServiceState σ τ :=
  let content : Content := .json (message (service.supply.id .message state.drawn)).toJson
  { state with
    producer := state.producer.sendAsync service.topic (some key) content
    drawn := state.drawn + 1 }

def requireReceiver (service : EventService σ) (id : ReceiverId) (state : ServiceState σ τ) :
    Except StoreFault Unit :=
  match service.store.findReceiver id state.store with
  | .error fault => .error fault
  | .ok none => .error (.unknownReceiver id)
  | .ok (some _) => .ok ()

/-- Creates a receiver, which must have a name. -/
def createReceiver (service : EventService σ) (new : NewReceiver) (state : ServiceState σ τ) :
    Except ServiceFault Receiver × ServiceState σ τ :=
  if Text.allBlank new.name then (.error (.invalid "event receiver name is required"), state)
  else
    let (outcome, store) := service.store.createReceiver (service.supply.id .receiver state.drawn)
      (service.supply.time state.drawn) new state.store
    let state := { state with store, drawn := state.drawn + 1 }
    match outcome with
    | .error fault => (.error (.store fault), state)
    | .ok receiver =>
      (.ok receiver, service.announce receiver.id.text (.receiverCreated · receiver) state)

/-- Checks that a group has members and that all of them exist. -/
def checkMembers (service : EventService σ) (members : List ReceiverId)
    (state : ServiceState σ τ) : Except StoreFault Unit :=
  if members.isEmpty then .error .emptyGroup
  else members.forM (service.requireReceiver · state)

def createGroup (service : EventService σ) (new : NewGroup) (state : ServiceState σ τ) :
    Except ServiceFault ReceiverGroup × ServiceState σ τ :=
  match service.checkMembers new.members state with
  | .error fault => (.error (.store fault), state)
  | .ok () =>
    let (outcome, store) := service.store.createGroup (service.supply.id .group state.drawn)
      (service.supply.time state.drawn) new state.store
    let state := { state with store, drawn := state.drawn + 1 }
    match outcome with
    | .error fault => (.error (.store fault), state)
    | .ok group => (.ok group, service.announce group.id.text (.groupCreated · group) state)

def storeEvent (service : EventService σ) (new : NewEvent) (state : ServiceState σ τ) :
    Except StoreFault Event × ServiceState σ τ :=
  let (outcome, store) := service.store.createEvent (service.supply.id .event state.drawn)
    (service.supply.time state.drawn) new state.store
  (outcome, { state with store, drawn := state.drawn + 1 })

def announceEvent (service : EventService σ) (event : Event) (state : ServiceState σ τ) :
    ServiceState σ τ :=
  service.announce event.receiverId.text (.eventCreated · event) state

/-- Announces the completion of a group, unless the group is disabled. -/
def announceCompletion (service : EventService σ) (event : Event) (group : ReceiverGroup)
    (state : ServiceState σ τ) : List GroupId × ServiceState σ τ :=
  if group.enabled then
    ([group.id], service.announce group.id.text (.groupCompleted · group event) state)
  else ([], state)

/-- Announces the completion of groups one after the other, and gives those announced. -/
def announceCompletions (service : EventService σ) (event : Event) :
    List ReceiverGroup → ServiceState σ τ → List GroupId × ServiceState σ τ
  | [], state => ([], state)
  | group :: rest, state =>
    let (announced, state) := service.announceCompletion event group state
    let (more, state) := service.announceCompletions event rest state
    (announced ++ more, state)

def publishCompletions (service : EventService σ) (event : Event) (state : ServiceState σ τ) :
    Except StoreFault (List GroupId) × ServiceState σ τ :=
  match service.store.triggered event state.store with
  | .error fault => (.error fault, state)
  | .ok groups =>
    let (announced, state) := service.announceCompletions event groups state
    (.ok announced, state)

def createEvent (service : EventService σ) (new : NewEvent) (state : ServiceState σ τ) :
    Except ServiceFault CreatedEvent × ServiceState σ τ :=
  match service.requireReceiver new.receiverId state with
  | .error fault => (.error (.store fault), state)
  | .ok () => match service.storeEvent new state with
    | (.error fault, state) => (.error (.store fault), state)
    | (.ok event, state) =>
      match service.publishCompletions event (service.announceEvent event state) with
      | (.error fault, state) => (.error (.store fault), state)
      | (.ok completed, state) => (.ok ⟨event, completed⟩, state)

end EventService

end EventCorrelation
