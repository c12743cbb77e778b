import EventCorrelation.Proofs.Json.Nesting
import EventCorrelation.Proofs.Wire.RoundTrip

/-!
# Which messages can be read

A message puts four brackets around the payload of an event and around the schema of a receiver. It
can be read back just if these leave it within the limit of a reader.
-/

namespace EventCorrelation

open Json

/-- The deepest nesting of a payload or a schema that leaves its message readable. -/
def Message.contentLimit : Nat := nestingLimit - 4

/-- The payloads and schemas in the data leave a message readable. -/
structure MessageData.Shallow (data : MessageData) : Prop where
  events : ∀ event ∈ data.events, event.payload.depth ≤ Message.contentLimit
  receivers : ∀ receiver ∈ data.receivers, receiver.schema.depth ≤ Message.contentLimit

theorem Event.depth_toJson (event : Event) : event.toJson.depth = event.payload.depth + 1 := by
  simp [toJson, depth, depthMembers, Identifier.toJson, Timestamp.toJson]

theorem Receiver.depth_toJson (receiver : Receiver) :
    receiver.toJson.depth = receiver.schema.depth + 1 := by
  simp [toJson, depth, depthMembers, Identifier.toJson, Timestamp.toJson]

theorem ReceiverGroup.depth_toJson_le (group : ReceiverGroup) : group.toJson.depth ≤ 2 := by
  have members := depth_identifiers group.memberIds
  simp only [toJson, depth, depthMembers, Identifier.toJson, Timestamp.toJson]
  omega

theorem Message.depth_toJson_le {message : Message} (shallow : message.data.Shallow) :
    message.toJson.depth ≤ nestingLimit := by
  have events : depthItems (message.data.events.map Event.toJson) ≤ contentLimit + 1 :=
    depthItems_map_le fun event isEvent => by
      rw [Event.depth_toJson]
      exact Nat.succ_le_succ (shallow.events event isEvent)
  have receivers : depthItems (message.data.receivers.map Receiver.toJson) ≤ contentLimit + 1 :=
    depthItems_map_le fun receiver isReceiver => by
      rw [Receiver.depth_toJson]
      exact Nat.succ_le_succ (shallow.receivers receiver isReceiver)
  have groups : depthItems (message.data.groups.map ReceiverGroup.toJson) ≤ 2 :=
    depthItems_map_le fun group _ => group.depth_toJson_le
  simp only [contentLimit, nestingLimit] at events receivers
  simp only [toJson, MessageData.toJson, depth, depthMembers, nestingLimit]
  omega

section Reading

variable {levels : Nat}

/-- An event that is read out of a text opens one bracket around its payload. -/
theorem Event.depth_le_of_decode {event other : Event}
    (decoded : reader.decode ⟨.text, levels⟩ (.ofJson event.toJson) = .ok other) :
    event.payload.depth + 1 ≤ levels := by
  obtain ⟨fewer, part, rfl, decodedPart⟩ :=
    decoded_of_decodeRecord ⟨"payload", decodeJson, none⟩ event.payload decoded (by simp) rfl
  exact Nat.succ_le_succ (depth_le_of_decodeJson event.payload fewer decodedPart)

/-- A receiver that is read out of a text opens one bracket around its schema. -/
theorem Receiver.depth_le_of_decode {receiver other : Receiver}
    (decoded : reader.decode ⟨.text, levels⟩ (.ofJson receiver.toJson) = .ok other) :
    receiver.schema.depth + 1 ≤ levels := by
  obtain ⟨fewer, part, rfl, decodedPart⟩ :=
    decoded_of_decodeRecord ⟨"schema", decodeJson, none⟩ receiver.schema decoded (by simp) rfl
  exact Nat.succ_le_succ (depth_le_of_decodeJson receiver.schema fewer decodedPart)

/-- Data that are read out of a text open three brackets around their payloads and schemas. -/
theorem MessageData.depth_le_of_decode {data other : MessageData}
    (decoded : reader.decode ⟨.text, levels⟩ (.ofJson data.toJson) = .ok other) :
    (∀ event ∈ data.events, event.payload.depth + 3 ≤ levels) ∧
      ∀ receiver ∈ data.receivers, receiver.schema.depth + 3 ≤ levels := by
  refine ⟨fun event isEvent => ?_, fun receiver isReceiver => ?_⟩
  · obtain ⟨_, events, rfl, decodedEvents⟩ := decoded_of_decodeRecord
      ⟨"events", decodeList Event.reader.decode, some []⟩
      (.array (data.events.map Event.toJson)) decoded (by simp) rfl
    obtain ⟨fewer, part, rfl, decodedEvent⟩ :=
      decoded_of_decodeList decodedEvents (List.mem_map_of_mem isEvent)
    exact Nat.add_le_add_right (Event.depth_le_of_decode decodedEvent) 2
  · obtain ⟨_, receivers, rfl, decodedReceivers⟩ := decoded_of_decodeRecord
      ⟨"event_receivers", decodeList Receiver.reader.decode, some []⟩
      (.array (data.receivers.map Receiver.toJson)) decoded (by simp) rfl
    obtain ⟨fewer, part, rfl, decodedReceiver⟩ :=
      decoded_of_decodeList decodedReceivers (List.mem_map_of_mem isReceiver)
    exact Nat.add_le_add_right (Receiver.depth_le_of_decode decodedReceiver) 2

theorem Message.shallow_of_decode {message other : Message}
    (decoded : reader.decode ⟨.text, nestingLimit⟩ (.ofJson message.toJson) = .ok other) :
    message.data.Shallow := by
  obtain ⟨fewer, data, levels, decodedData⟩ := decoded_of_decodeRecord
    ⟨"data", MessageData.reader.decode, none⟩ message.data.toJson decoded (by simp) rfl
  obtain ⟨events, receivers⟩ := MessageData.depth_le_of_decode decodedData
  have fewerEq : fewer = contentLimit + 3 := by
    simp only [nestingLimit] at levels
    simp only [contentLimit, nestingLimit]
    omega
  rw [fewerEq] at events receivers
  exact ⟨fun event isEvent => Nat.le_of_add_le_add_right (events event isEvent),
    fun receiver isReceiver => Nat.le_of_add_le_add_right (receivers receiver isReceiver)⟩

end Reading

/-- What is read from the compact text of a value is what is read from the value. -/
theorem decoded_of_compact {α : Type} {decoder : Decoder α} {json : Json} {value : α}
    (floatFree : json.FloatFree)
    (decoded : Json.decode decoder (Text.bytes json.compact) = .ok value) :
    decoder ⟨.text, nestingLimit⟩ (.ofJson json) = .ok value := by
  have scanned := ofText_of_spells isSpace_nil (spells_compact floatFree) isSpace_nil
  rw [Text.encode_nil, List.nil_append, List.append_nil] at scanned
  rw [Json.decode, scanned] at decoded
  obtain ⟨read, decodedTree, ended⟩ := exists_of_bind decoded
  cases ended
  exact decodedTree

/-- The text of a message can be read just if what it carries leaves it within the limit; then it
reads as the message. -/
theorem Message.readable_iff {message : Message} (exact : message.data.Exact) (other : Message) :
    Message.ofBytes (Text.bytes message.compact) = .ok other ↔
      message.data.Shallow ∧ other = message := by
  constructor
  · intro decoded
    have shallow := shallow_of_decode (decoded_of_compact (floatFree exact) decoded)
    have again := decode_compact (reads exact) (floatFree exact) (depth_toJson_le shallow)
    exact ⟨shallow, Except.ok.inj (decoded.symm.trans again)⟩
  · rintro ⟨shallow, rfl⟩
    exact decode_compact (reads exact) (floatFree exact) (depth_toJson_le shallow)

end EventCorrelation
