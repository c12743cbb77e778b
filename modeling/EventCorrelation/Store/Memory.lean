import EventCorrelation.Store.Basic

/-!
# Stores in memory

Events, receivers and groups in the order of their creation. Receivers are found by their
identifiers as in a map: a new one takes the place of another with the same identifier.
-/

namespace EventCorrelation

structure MemoryStore where
  events : List Event
  receivers : List Receiver
  groups : List ReceiverGroup
deriving DecidableEq

namespace MemoryStore

def empty : MemoryStore := ⟨[], [], []⟩

def findEvent? (id : EventId) (store : MemoryStore) : Option Event :=
  store.events.find? (·.id == id)

def findReceiver? (id : ReceiverId) (store : MemoryStore) : Option Receiver :=
  store.receivers.reverse.find? (·.id == id)

def findGroup? (id : GroupId) (store : MemoryStore) : Option ReceiverGroup :=
  store.groups.find? (·.id == id)

def knows (id : ReceiverId) (store : MemoryStore) : Bool := (store.findReceiver? id).isSome

/-- The receiver has a successful event. -/
def hasSuccess (id : ReceiverId) (store : MemoryStore) : Bool :=
  store.events.any fun event => event.success && event.receiverId == id

/-- Every member of the group has a successful event. -/
def isComplete (group : ReceiverGroup) (store : MemoryStore) : Bool :=
  !group.memberIds.isEmpty && group.memberIds.all (store.hasSuccess ·)

def createEvent (id : EventId) (now : Timestamp) (new : NewEvent) (store : MemoryStore) :
    Except StoreFault Event × MemoryStore :=
  if store.knows new.receiverId then
    let event := new.toEvent id now
    (.ok event, { store with events := store.events ++ [event] })
  else (.error (.unknownReceiver new.receiverId), store)

def createReceiver (id : ReceiverId) (now : Timestamp) (new : NewReceiver)
    (store : MemoryStore) : Except StoreFault Receiver × MemoryStore :=
  let receiver := new.toReceiver id now
  (.ok receiver, { store with receivers := store.receivers ++ [receiver] })

def createGroup (id : GroupId) (now : Timestamp) (new : NewGroup) (store : MemoryStore) :
    Except StoreFault ReceiverGroup × MemoryStore :=
  if new.members.isEmpty then (.error .emptyGroup, store)
  else match new.members.find? (!store.knows ·) with
    | some unknown => (.error (.unknownReceiver unknown), store)
    | none =>
      let group := new.toGroup id now
      (.ok group, { store with groups := store.groups ++ [group] })

/-- The groups that an event completes, in creation order. -/
def triggered (event : Event) (store : MemoryStore) : List ReceiverGroup :=
  (store.groups.filter (·.contains event.receiverId)).filter (store.isComplete ·)

def store : Store MemoryStore where
  createEvent := createEvent
  createReceiver := createReceiver
  createGroup := createGroup
  findEvent id store := .ok (store.findEvent? id)
  findReceiver id store := .ok (store.findReceiver? id)
  findGroup id store := .ok (store.findGroup? id)
  triggered event store := .ok (store.triggered event)

end MemoryStore

end EventCorrelation
