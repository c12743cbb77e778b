import EventCorrelation.Proofs.Json.Layouts
import EventCorrelation.Proofs.Wire.Records

/-!
# The wire format

What is written as JSON reads back as what it was, in both layouts, as long as it nests no deeper
than a reader accepts.
-/

namespace EventCorrelation

open Json

section Texts

variable {α : Type} {decoder : Decoder α} {json : Json} {value : α}

/-- The compact text of a JSON value decodes to what the value is read as. -/
theorem decode_compact (reads : Reads decoder json value) (floatFree : json.FloatFree)
    (shallow : json.depth ≤ nestingLimit) :
    Json.decode decoder (Text.bytes json.compact) = .ok value := by
  have decoded := decode_of_spells reads shallow isSpace_nil (spells_compact floatFree) isSpace_nil
  rwa [Text.encode_nil, List.nil_append, List.append_nil] at decoded

/-- So does the indented text. -/
theorem decode_indented (reads : Reads decoder json value) (floatFree : json.FloatFree)
    (shallow : json.depth ≤ nestingLimit) :
    Json.decode decoder (Text.bytes json.indented) = .ok value := by
  have decoded := decode_of_spells reads shallow isSpace_nil (spells_indented floatFree) isSpace_nil
  rwa [Text.encode_nil, List.nil_append, List.append_nil] at decoded

end Texts

section Depths

theorem depthItems_map_le {α : Type} {encode : α → Json} {values : List α} {bound : Nat}
    (each : ∀ value ∈ values, (encode value).depth ≤ bound) :
    depthItems (values.map encode) ≤ bound := by
  induction values with
  | nil => exact Nat.zero_le bound
  | cons value rest ih =>
    exact Nat.max_le.mpr ⟨each value (List.mem_cons_self ..),
      ih fun other member => each other (List.mem_cons_of_mem _ member)⟩

theorem depth_identifiers {kind : EntityKind} (ids : List (Identifier kind)) :
    (Identifier.listToJson ids).depth ≤ 1 :=
  Nat.succ_le_succ (depthItems_map_le fun _ _ => Nat.le_refl 0)

/-- Groups nest no deeper than the list of their members. -/
theorem ReceiverGroup.depth_toJson (group : ReceiverGroup) :
    group.toJson.depth ≤ nestingLimit := by
  have members := depth_identifiers group.memberIds
  simp only [toJson, depth, depthMembers, Identifier.toJson, Timestamp.toJson, nestingLimit]
  omega

theorem NewGroup.depth_toJson (new : NewGroup) : new.toJson.depth ≤ nestingLimit := by
  have members := depth_identifiers new.memberIds
  simp only [toJson, depth, depthMembers, nestingLimit]
  omega

theorem FingerprintSeed.depth_toJson (seed : FingerprintSeed) :
    seed.toJson.depth ≤ nestingLimit := by
  have tags : depthItems (seed.tags.map .string) ≤ 0 := depthItems_map_le fun _ _ => Nat.le_refl 0
  simp only [toJson, FingerprintSeed.members, depth, depthMembers, nestingLimit]
  omega

end Depths

/-- Decoding undoes encoding: for messages in both layouts, and in the compact one for all that
messages carry and for all that callers supply. -/
theorem decode_encode :
    (∀ message : Message, message.data.Exact → message.toJson.depth ≤ nestingLimit →
      Message.ofBytes (Text.bytes message.compact) = .ok message ∧
      Message.ofBytes (Text.bytes message.indented) = .ok message) ∧
    (∀ data : MessageData, data.Exact → data.toJson.depth ≤ nestingLimit →
      Codec.ofText (Codec.text data) = .ok data) ∧
    (∀ event : Event, event.Exact → event.toJson.depth ≤ nestingLimit →
      Codec.ofText (Codec.text event) = .ok event) ∧
    (∀ receiver : Receiver, receiver.Exact → receiver.toJson.depth ≤ nestingLimit →
      Codec.ofText (Codec.text receiver) = .ok receiver) ∧
    (∀ group : ReceiverGroup, group.Exact →
      Codec.ofText (Codec.text group) = .ok group) ∧
    (∀ new : NewEvent, new.payload.Exact → new.toJson.depth ≤ nestingLimit →
      Codec.ofText (Codec.text new) = .ok new) ∧
    (∀ new : NewReceiver, new.schema.Exact → new.toJson.depth ≤ nestingLimit →
      Codec.ofText (Codec.text new) = .ok new) ∧
    (∀ new : NewGroup, Codec.ofText (Codec.text new) = .ok new) ∧
    (∀ seed : FingerprintSeed, Codec.ofText (Codec.text seed) = .ok seed) := by
  refine ⟨?_, ?_, ?_, ?_, ?_, ?_, ?_, ?_, ?_⟩
  · intro message exact shallow
    have reads := Message.reads exact
    have floatFree := Message.floatFree exact
    exact ⟨decode_compact reads floatFree shallow, decode_indented reads floatFree shallow⟩
  · intro data exact shallow
    exact decode_compact exact.reads exact.floatFree shallow
  · intro event exact shallow
    exact decode_compact exact.reads exact.floatFree shallow
  · intro receiver exact shallow
    exact decode_compact exact.reads exact.floatFree shallow
  · intro group exact
    exact decode_compact exact.reads group.floatFree group.depth_toJson
  · intro new exact shallow
    exact decode_compact (NewEvent.reads exact) (NewEvent.floatFree exact) shallow
  · intro new exact shallow
    exact decode_compact (NewReceiver.reads exact) (NewReceiver.floatFree exact) shallow
  · intro new
    exact decode_compact new.reads new.floatFree new.depth_toJson
  · intro seed
    exact decode_compact seed.reads seed.floatFree seed.depth_toJson

/-- A payload with escapes, characters of all sizes and integers at both limits. -/
def samplePayload : Json :=
  .object [("", .array [.null, .bool true, .object []]),
    ("limits", .array [.number (.integer (-9223372036854775808)), .number (.integer 18446744073709551615)]),
    ("text", .string "\"é€😀\\\n\x01")]

theorem samplePayload_exact : samplePayload.Exact where
  floatFree := by simp [samplePayload, FloatFree, FloatFreeItems, FloatFreeMembers]
  sorted := by
    refine ⟨by decide, ?_⟩
    simp [SortedMembers, Sorted, SortedItems]

/-- An event within a leap second. -/
def sampleEvent : Event :=
  ⟨⟨.allOnes 128⟩, "build", "1", "", "", "", "", samplePayload, true, ⟨0⟩,
    ⟨1483228799, 1500000000⟩⟩

/-- A receiver created in the last second before the year 0. -/
def sampleReceiver : Receiver :=
  ⟨⟨0⟩, "unit", "test", "1", "", samplePayload, "", true, ⟨-62167219201, 999999999⟩⟩

/-- A group updated in the year 10000. -/
def sampleGroup : ReceiverGroup :=
  ⟨⟨1⟩, "gate", "gate", "1", "", false, [⟨0⟩, ⟨3⟩], ⟨0, 0⟩, ⟨253402300800, 1000000⟩⟩

def sampleMessage : Message :=
  ⟨true, "", "1.0", "build", "", "v1", "build", "1", "", "", "",
    ⟨[sampleEvent], [sampleReceiver], [sampleGroup]⟩⟩

def sampleNewEvent : NewEvent := ⟨"build", "1", "", "", "", "", samplePayload, false, ⟨0⟩⟩

def sampleNewReceiver : NewReceiver := ⟨"unit", "test", "1", "", samplePayload⟩

theorem sampleEvent_exact : sampleEvent.Exact where
  payload := samplePayload_exact
  createdAt := ⟨by decide, by decide⟩

theorem sampleReceiver_exact : sampleReceiver.Exact where
  schema := samplePayload_exact
  createdAt := ⟨by decide, by decide⟩

theorem sampleGroup_exact : sampleGroup.Exact where
  createdAt := ⟨by decide, by decide⟩
  updatedAt := ⟨by decide, by decide⟩

theorem sampleMessage_exact : sampleMessage.data.Exact where
  events _ member := by
    rw [List.mem_singleton.mp member]
    exact sampleEvent_exact
  receivers _ member := by
    rw [List.mem_singleton.mp member]
    exact sampleReceiver_exact
  groups _ member := by
    rw [List.mem_singleton.mp member]
    exact sampleGroup_exact

/-- The sample, what it carries and what a caller supplies of it are all read back. -/
theorem decode_encode_sample :
    (Message.ofBytes (Text.bytes sampleMessage.compact) = .ok sampleMessage ∧
      Message.ofBytes (Text.bytes sampleMessage.indented) = .ok sampleMessage) ∧
    Codec.ofText (Codec.text sampleMessage.data) = .ok sampleMessage.data ∧
    Codec.ofText (Codec.text sampleEvent) = .ok sampleEvent ∧
    Codec.ofText (Codec.text sampleReceiver) = .ok sampleReceiver ∧
    Codec.ofText (Codec.text sampleGroup) = .ok sampleGroup ∧
    Codec.ofText (Codec.text sampleNewEvent) = .ok sampleNewEvent ∧
    Codec.ofText (Codec.text sampleNewReceiver) = .ok sampleNewReceiver := by
  obtain ⟨message, data, event, receiver, group, newEvent, newReceiver, -, -⟩ := decode_encode
  refine ⟨message _ sampleMessage_exact (by decide), data _ sampleMessage_exact (by decide),
    event _ sampleEvent_exact (by decide), receiver _ sampleReceiver_exact (by decide),
    group _ sampleGroup_exact, newEvent _ samplePayload_exact (by decide),
    newReceiver _ samplePayload_exact (by decide)⟩

end EventCorrelation
