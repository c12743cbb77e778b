import EventCorrelation.Message
import EventCorrelation.Proofs.Time.RoundTrip

/-!
# Exact values

The values that JSON carries without loss: those without floating point numbers in their payloads
and schemas. As everywhere, objects have their members sorted by name and times are times of the
calendar.
-/

namespace EventCorrelation

open Json

/-- A payload or a schema that is carried without loss. -/
structure Json.Exact (value : Json) : Prop where
  floatFree : value.FloatFree
  sorted : value.Sorted

structure Event.Exact (event : Event) : Prop where
  payload : event.payload.Exact
  createdAt : event.createdAt.IsValid

structure Receiver.Exact (receiver : Receiver) : Prop where
  schema : receiver.schema.Exact
  createdAt : receiver.createdAt.IsValid

structure ReceiverGroup.Exact (group : ReceiverGroup) : Prop where
  createdAt : group.createdAt.IsValid
  updatedAt : group.updatedAt.IsValid

structure MessageData.Exact (data : MessageData) : Prop where
  events : ∀ event ∈ data.events, event.Exact
  receivers : ∀ receiver ∈ data.receivers, receiver.Exact
  groups : ∀ group ∈ data.groups, group.Exact

section FloatFree

variable {α : Type} {encode : α → Json} {values : List α}

theorem floatFreeItems_map (each : ∀ value ∈ values, (encode value).FloatFree) :
    FloatFreeItems (values.map encode) := by
  induction values with
  | nil => trivial
  | cons value rest ih =>
    exact ⟨each value (List.mem_cons_self ..),
      ih fun other member => each other (List.mem_cons_of_mem _ member)⟩

theorem floatFree_identifiers {kind : EntityKind} (ids : List (Identifier kind)) :
    (Identifier.listToJson ids).FloatFree :=
  floatFreeItems_map fun _ _ => trivial

theorem Event.Exact.floatFree {event : Event} (exact : event.Exact) : event.toJson.FloatFree := by
  simp [Event.toJson, FloatFree, FloatFreeMembers, Identifier.toJson, Timestamp.toJson,
    exact.payload.floatFree]

theorem Receiver.Exact.floatFree {receiver : Receiver} (exact : receiver.Exact) :
    receiver.toJson.FloatFree := by
  simp [Receiver.toJson, FloatFree, FloatFreeMembers, Identifier.toJson, Timestamp.toJson,
    exact.schema.floatFree]

theorem ReceiverGroup.floatFree (group : ReceiverGroup) : group.toJson.FloatFree := by
  simp [ReceiverGroup.toJson, FloatFree, FloatFreeMembers, Identifier.toJson, Timestamp.toJson,
    floatFree_identifiers]

theorem NewEvent.floatFree {new : NewEvent} (exact : new.payload.Exact) :
    new.toJson.FloatFree := by
  simp [NewEvent.toJson, FloatFree, FloatFreeMembers, Identifier.toJson, exact.floatFree]

theorem NewReceiver.floatFree {new : NewReceiver} (exact : new.schema.Exact) :
    new.toJson.FloatFree := by
  simp [NewReceiver.toJson, FloatFree, FloatFreeMembers, exact.floatFree]

theorem NewGroup.floatFree (new : NewGroup) : new.toJson.FloatFree := by
  simp [NewGroup.toJson, FloatFree, FloatFreeMembers, floatFree_identifiers]

theorem FingerprintSeed.floatFree (seed : FingerprintSeed) : seed.toJson.FloatFree := by
  have tags : FloatFreeItems (seed.tags.map .string) := floatFreeItems_map fun _ _ => trivial
  simp [FingerprintSeed.toJson, FingerprintSeed.members, FloatFree, FloatFreeMembers, tags]

theorem MessageData.Exact.floatFree {data : MessageData} (exact : data.Exact) :
    data.toJson.FloatFree := by
  have events : FloatFreeItems (data.events.map Event.toJson) :=
    floatFreeItems_map fun event member => (exact.events event member).floatFree
  have receivers : FloatFreeItems (data.receivers.map Receiver.toJson) :=
    floatFreeItems_map fun receiver member => (exact.receivers receiver member).floatFree
  have groups : FloatFreeItems (data.groups.map ReceiverGroup.toJson) :=
    floatFreeItems_map fun group _ => group.floatFree
  simp [MessageData.toJson, FloatFree, FloatFreeMembers, events, receivers, groups]

theorem Message.floatFree {message : Message} (exact : message.data.Exact) :
    message.toJson.FloatFree := by
  simp [Message.toJson, FloatFree, FloatFreeMembers, exact.floatFree]

end FloatFree

end EventCorrelation
