import EventCorrelation.Bus.MemoryLog
import EventCorrelation.Intake.Command
import EventCorrelation.Service.Basic
import EventCorrelation.Store.Memory

/-!
# Histories of a service

Commands carried out one after the other, with what came of each. What a service publishes is named
here apart from the way it takes: the announcement of a new entity, and the completion of a group
because of an event. That it was published is said of the records of a log.
-/

namespace EventCorrelation

/-- Something that the service has created. -/
inductive Entity where
  | event (made : Event)
  | receiver (made : Receiver)
  | group (made : ReceiverGroup)
deriving DecidableEq

namespace Entity

def event? : Entity → Option Event
  | .event made => some made
  | _ => none

def receiver? : Entity → Option Receiver
  | .receiver made => some made
  | _ => none

def group? : Entity → Option ReceiverGroup
  | .group made => some made
  | _ => none

end Entity

/-- Something new, and the groups whose completion was announced because of it. -/
structure Creation where
  entity : Entity
  completed : List GroupId
deriving DecidableEq

/-- What a service publishes. -/
inductive Publication where
  | announcement (entity : Entity)
  | completion (group : ReceiverGroup) (trigger : Event)
deriving DecidableEq

namespace Publication

/-- Events and receivers go under the identifier of the receiver, groups under their own. -/
def key : Publication → String
  | .announcement (.event made) => made.receiverId.text
  | .announcement (.receiver made) => made.id.text
  | .announcement (.group made) => made.id.text
  | .completion group _ => group.id.text

def message (id : MessageId) : Publication → Message
  | .announcement (.event made) => .eventCreated id made
  | .announcement (.receiver made) => .receiverCreated id made
  | .announcement (.group made) => .groupCreated id made
  | .completion group trigger => .groupCompleted id group trigger

/-- The entity that is announced, unless a completion is. -/
def announced? : Publication → Option Entity
  | .announcement entity => some entity
  | .completion _ _ => none

/-- The record carries what was published: under its key, and with the text of its message. -/
def CarriedBy (topic : String) (publication : Publication) (record : PublishedRecord) : Prop :=
  record.topic = topic ∧ record.key = some publication.key ∧
    ∃ id : MessageId, record.payload = Text.bytes (publication.message id).compact

end Publication

/-- The entity that a command creates, once it has a number and a time. -/
def IntakeCommand.toEntity (number : BitVec 128) (now : Timestamp) : IntakeCommand → Entity
  | .createEvent new => .event (new.toEvent ⟨number⟩ now)
  | .createReceiver new => .receiver (new.toReceiver ⟨number⟩ now)
  | .createGroup new => .group (new.toGroup ⟨number⟩ now)

namespace MemoryStore

/-- The store with one more entity. -/
def add (entity : Entity) (store : MemoryStore) : MemoryStore :=
  match entity with
  | .event made => { store with events := store.events ++ [made] }
  | .receiver made => { store with receivers := store.receivers ++ [made] }
  | .group made => { store with groups := store.groups ++ [made] }

/-- The store that holds the given entities, created in this order. -/
def ofEntities (entities : List Entity) : MemoryStore where
  events := entities.filterMap Entity.event?
  receivers := entities.filterMap Entity.receiver?
  groups := entities.filterMap Entity.group?

/-- The groups whose completion is announced because of an entity. -/
def completedBy (entity : Entity) (store : MemoryStore) : List ReceiverGroup :=
  match entity with
  | .event made => (store.triggered made).filter (·.enabled)
  | _ => []

/-- What is published about an entity that the store now holds. -/
def publications (entity : Entity) (store : MemoryStore) : List Publication :=
  .announcement entity :: match entity with
    | .event made => (store.completedBy entity).map (.completion · made)
    | _ => []

/-- Why a command is refused, if it is. -/
def verdict (command : IntakeCommand) (store : MemoryStore) : Except ServiceFault Unit :=
  match command with
  | .createEvent new =>
    if store.knows new.receiverId then .ok ()
    else .error (.store (.unknownReceiver new.receiverId))
  | .createReceiver new =>
    if Text.allBlank new.name then .error (.invalid "event receiver name is required") else .ok ()
  | .createGroup new =>
    if new.members.isEmpty then .error (.store .emptyGroup)
    else match new.members.find? (!store.knows ·) with
      | some unknown => .error (.store (.unknownReceiver unknown))
      | none => .ok ()

end MemoryStore

/-- A command and what came of it. -/
structure HistoryEntry where
  command : IntakeCommand
  outcome : Except ServiceFault Creation

namespace HistoryEntry

/-- The event that was stored, if one was. -/
def event? (entry : HistoryEntry) : Option Event :=
  match entry.outcome with
  | .ok creation => creation.entity.event?
  | .error _ => none

/-- What was asked for and the identifier that it got, if a group was created. -/
def group? (entry : HistoryEntry) : Option (NewGroup × GroupId) :=
  match entry.command, entry.outcome with
  | .createGroup new, .ok creation => creation.entity.group?.map fun made => (new, made.id)
  | _, _ => none

/-- The groups that the answer names as complete. -/
def completed (entry : HistoryEntry) : List GroupId :=
  match entry.outcome with
  | .ok creation => creation.completed
  | .error _ => []

end HistoryEntry

abbrev History := List HistoryEntry

namespace History

/-- The receiver has a successful event. -/
def succeeded (history : History) (id : ReceiverId) : Bool :=
  (history.filterMap HistoryEntry.event?).any fun event =>
    event.success && event.receiverId == id

/-- The groups, in creation order, that were asked for with the receiver among their members and
every member of which has a successful event by the end of `whole`. -/
def completeGroups (history whole : History) (id : ReceiverId) : List GroupId :=
  ((history.filterMap HistoryEntry.group?).filter fun made =>
    made.1.memberIds.contains id && made.1.memberIds.all whole.succeeded).map (·.2)

/-- The groups that the answers name as complete, each as often as they do. -/
def completed (history : History) : List GroupId := history.flatMap HistoryEntry.completed

end History

/-- An empty store and a producer with an empty log that takes every record. -/
def ServiceState.fresh (capacity : Nat) : ServiceState MemoryStore MemoryLog :=
  ⟨.empty, .ofTransport capacity MemoryLog.transport (.empty none), 0⟩

namespace EventService

variable {σ τ : Type}

def inMemory (topic : String) (supply : Supply) : EventService MemoryStore :=
  ⟨MemoryStore.store, topic, supply⟩

def perform (service : EventService σ) (command : IntakeCommand) (state : ServiceState σ τ) :
    Except ServiceFault Creation × ServiceState σ τ :=
  match command with
  | .createEvent new =>
    let (outcome, state) := service.createEvent new state
    (outcome.map fun created => ⟨.event created.event, created.completed⟩, state)
  | .createReceiver new =>
    let (outcome, state) := service.createReceiver new state
    (outcome.map fun made => ⟨.receiver made, []⟩, state)
  | .createGroup new =>
    let (outcome, state) := service.createGroup new state
    (outcome.map fun made => ⟨.group made, []⟩, state)

def performAll (service : EventService σ) :
    List IntakeCommand → ServiceState σ τ → History × ServiceState σ τ
  | [], state => ([], state)
  | command :: rest, state =>
    let (outcome, state) := service.perform command state
    let (later, state) := service.performAll rest state
    (⟨command, outcome⟩ :: later, state)

/-- Publishes under the key that belongs to what is published. -/
def publish (service : EventService σ) (state : ServiceState σ τ) (publication : Publication) :
    ServiceState σ τ :=
  service.announce publication.key (publication.message ·) state

def publishAll (service : EventService σ) (publications : List Publication)
    (state : ServiceState σ τ) : ServiceState σ τ :=
  publications.foldl service.publish state

/-- From one state of the service to a later one, the completion of the group is announced: a record
that carries it joins the log. -/
def Announced (service : EventService σ) (group : ReceiverGroup)
    (before after : ServiceState σ MemoryLog) : Prop :=
  ∃ added, after.producer.state.records = before.producer.state.records ++ added ∧
    ∃ record ∈ added, ∃ trigger,
      (Publication.completion group trigger).CarriedBy service.topic record

/-- While the commands are carried out, the completion of a group with the identifier is
announced. -/
def Announces (service : EventService σ) (commands : List IntakeCommand)
    (state : ServiceState σ MemoryLog) (id : GroupId) : Prop :=
  ∃ group : ReceiverGroup, group.id = id ∧
    service.Announced group state (service.performAll commands state).2

end EventService

end EventCorrelation
