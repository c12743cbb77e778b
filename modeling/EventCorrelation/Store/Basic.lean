import EventCorrelation.ReceiverGroup
import EventCorrelation.Store.Fault

/-!
# Stores

Where events, receivers and groups are kept, as operations on the state of the store. What is
created gets the identifier and the time that come with the request.
-/

namespace EventCorrelation

/-- A store with states `σ`. -/
structure Store (σ : Type) where
  createEvent : EventId → Timestamp → NewEvent → σ → Except StoreFault Event × σ
  createReceiver : ReceiverId → Timestamp → NewReceiver → σ → Except StoreFault Receiver × σ
  /-- Refuses a group without members or with unknown ones. -/
  createGroup : GroupId → Timestamp → NewGroup → σ → Except StoreFault ReceiverGroup × σ
  findEvent : EventId → σ → Except StoreFault (Option Event)
  findReceiver : ReceiverId → σ → Except StoreFault (Option Receiver)
  findGroup : GroupId → σ → Except StoreFault (Option ReceiverGroup)
  /-- The groups that contain the receiver of the event and every member of which has at least one
  successful event, in creation order. -/
  triggered : Event → σ → Except StoreFault (List ReceiverGroup)

end EventCorrelation
