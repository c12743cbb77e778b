import EventCorrelation.Proofs.Json.Numbers
import EventCorrelation.Proofs.Time.Validity
import EventCorrelation.Proofs.Wire.Readability

/-!
# Messages of texts

A message that is read is carried without loss from then on, whatever its text looked like, unless
there are floating point numbers in it: its times are times of the calendar, its payloads and schemas
are sorted and nest no deeper than a message may.
-/

namespace EventCorrelation

open Json

variable {levels : Nat}

/-- An event as it comes out of a text with so many levels to open for its payload. -/
structure Event.Legible (levels : Nat) (event : Event) : Prop where
  payload : event.payload.Legible levels
  createdAt : event.createdAt.IsValid

structure Receiver.Legible (levels : Nat) (receiver : Receiver) : Prop where
  schema : receiver.schema.Legible levels
  createdAt : receiver.createdAt.IsValid

structure MessageData.Legible (levels : Nat) (data : MessageData) : Prop where
  events : ∀ event ∈ data.events, event.Legible levels
  receivers : ∀ receiver ∈ data.receivers, receiver.Legible levels
  groups : ∀ group ∈ data.groups, group.Exact

/-- No floating point number occurs in the payloads and schemas. -/
structure MessageData.WithoutFloats (data : MessageData) : Prop where
  events : ∀ event ∈ data.events, ∀ number ∈ event.payload.numbers, number.IsInteger
  receivers : ∀ receiver ∈ data.receivers, ∀ number ∈ receiver.schema.numbers, number.IsInteger

theorem gives_time {sound : Tree → Prop} {reading : Reading} :
    Gives sound reading decodeTime Timestamp.IsValid := by
  intro tree time _ decoded
  unfold decodeTime at decoded
  split at decoded
  · obtain ⟨text, -, decoded⟩ := exists_of_bind decoded
    cases parsed : Timestamp.parse text with
    | error fault =>
      rw [parsed] at decoded
      cases decoded
    | ok other =>
      rw [parsed] at decoded
      cases decoded
      exact Timestamp.isValid_of_parse parsed
  · cases decoded

theorem Event.gives (levels : Nat) :
    Gives Tree.Fits ⟨.text, levels + 1⟩ Event.reader.decode (Event.Legible levels) := by
  refine gives_record Tree.hereditary_fits fun inner entered => ?_
  cases entered
  refine .seq ?_ (gives_required "created_at" gives_time)
  refine .seq ?_ (required "event_receiver_id" (decodeIdentifier .receiver)).gives_any
  refine .seq ?_ (required "success" decodeBool).gives_any
  refine .seq ?_ (gives_required "payload" (gives_legible levels))
  refine .seq ?_ (required "description" decodeString).gives_any
  refine .seq ?_ (required "package" decodeString).gives_any
  refine .seq ?_ (required "platform_id" decodeString).gives_any
  refine .seq ?_ (required "release" decodeString).gives_any
  refine .seq ?_ (required "version" decodeString).gives_any
  refine .seq ?_ (required "name" decodeString).gives_any
  refine (required "id" (decodeIdentifier .event)).gives_any.map ?_
  intro id _ name _ version _ release _ platformId _ package _ description _ payload legible
  exact fun _ _ _ _ _ valid => ⟨legible, valid⟩

theorem Receiver.gives (levels : Nat) :
    Gives Tree.Fits ⟨.text, levels + 1⟩ Receiver.reader.decode (Receiver.Legible levels) := by
  refine gives_record Tree.hereditary_fits fun inner entered => ?_
  cases entered
  refine .seq ?_ (gives_required "created_at" gives_time)
  refine .seq ?_ (required "enabled" decodeBool).gives_any
  refine .seq ?_ (required "fingerprint" decodeString).gives_any
  refine .seq ?_ (gives_required "schema" (gives_legible levels))
  refine .seq ?_ (required "description" decodeString).gives_any
  refine .seq ?_ (required "version" decodeString).gives_any
  refine .seq ?_ (required "type" decodeString).gives_any
  refine .seq ?_ (required "name" decodeString).gives_any
  refine (required "id" (decodeIdentifier .receiver)).gives_any.map ?_
  intro id _ name _ type _ version _ description _ schema legible
  exact fun _ _ _ _ _ valid => ⟨legible, valid⟩

theorem ReceiverGroup.gives (reading : Reading) :
    Gives Tree.Fits reading ReceiverGroup.reader.decode ReceiverGroup.Exact := by
  refine gives_record Tree.hereditary_fits fun inner _ => ?_
  refine .seq ?_ (gives_required "updated_at" gives_time)
  refine .seq ?_ (gives_required "created_at" gives_time)
  refine .seq ?_ (required "event_receiver_ids" (decodeList (decodeIdentifier .receiver))).gives_any
  refine .seq ?_ (required "enabled" decodeBool).gives_any
  refine .seq ?_ (required "description" decodeString).gives_any
  refine .seq ?_ (required "version" decodeString).gives_any
  refine .seq ?_ (required "type" decodeString).gives_any
  refine .seq ?_ (required "name" decodeString).gives_any
  refine (required "id" (decodeIdentifier .group)).gives_any.map ?_
  intro id _ name _ type _ version _ description _ enabled _ memberIds _
  exact fun _ created _ updated => ⟨created, updated⟩

/-- Data open a bracket for themselves, for each list and for what stands in it. -/
theorem MessageData.gives (levels : Nat) :
    Gives Tree.Fits ⟨.text, levels + 3⟩ MessageData.reader.decode (MessageData.Legible levels) := by
  refine gives_record Tree.hereditary_fits fun inner entered => ?_
  cases entered
  have events : Gives Tree.Fits ⟨.text, levels + 2⟩ (decodeList Event.reader.decode)
      fun events => ∀ event ∈ events, event.Legible levels :=
    gives_list Tree.hereditary_fits fun _ entered => by cases entered; exact Event.gives levels
  have receivers : Gives Tree.Fits ⟨.text, levels + 2⟩ (decodeList Receiver.reader.decode)
      fun receivers => ∀ receiver ∈ receivers, receiver.Legible levels :=
    gives_list Tree.hereditary_fits fun _ entered => by cases entered; exact Receiver.gives levels
  have groups : Gives Tree.Fits ⟨.text, levels + 2⟩ (decodeList ReceiverGroup.reader.decode)
      fun groups => ∀ group ∈ groups, group.Exact :=
    gives_list Tree.hereditary_fits fun _ _ => ReceiverGroup.gives _
  refine .seq ?_ (gives_optional "event_groups" groups nofun)
  refine .seq ?_ (gives_optional "event_receivers" receivers nofun)
  refine (gives_optional "events" events (by simp)).map ?_
  exact fun events legible receivers legibleReceivers groups exact =>
    ⟨legible, legibleReceivers, exact⟩

theorem Message.gives : Gives Tree.Fits ⟨.text, nestingLimit⟩ Message.reader.decode
    fun message => message.data.Legible contentLimit := by
  refine gives_record Tree.hereditary_fits fun inner entered => ?_
  cases entered
  refine .seq ?_ (gives_required "data" (MessageData.gives contentLimit))
  refine .seq ?_ (required "package" decodeString).gives_any
  refine .seq ?_ (required "platform_id" decodeString).gives_any
  refine .seq ?_ (required "release" decodeString).gives_any
  refine .seq ?_ (required "version" decodeString).gives_any
  refine .seq ?_ (required "name" decodeString).gives_any
  refine .seq ?_ (required "api_version" decodeString).gives_any
  refine .seq ?_ (required "source" decodeString).gives_any
  refine .seq ?_ (required "type" decodeString).gives_any
  refine .seq ?_ (required "specversion" decodeString).gives_any
  refine .seq ?_ (required "id" decodeString).gives_any
  refine (required "success" decodeBool).gives_any.map ?_
  intro success _ id _ specVersion _ type _ source _ apiVersion _ name _ version _ release _
  exact fun _ _ _ _ data legible => legible

theorem MessageData.Legible.exact {data : MessageData} (legible : data.Legible levels)
    (without : data.WithoutFloats) : data.Exact where
  events event isEvent :=
    have known := legible.events event isEvent
    ⟨⟨known.payload.floatFree (without.events event isEvent), known.payload.sorted⟩, known.createdAt⟩
  receivers receiver isReceiver :=
    have known := legible.receivers receiver isReceiver
    ⟨⟨known.schema.floatFree (without.receivers receiver isReceiver), known.schema.sorted⟩,
      known.createdAt⟩
  groups := legible.groups

theorem MessageData.Legible.shallow {data : MessageData}
    (legible : data.Legible Message.contentLimit) : data.Shallow where
  events event isEvent := (legible.events event isEvent).payload.shallow
  receivers receiver isReceiver := (legible.receivers receiver isReceiver).schema.shallow

/-- A message that was read from any text, and has no floating point numbers in it, is read back from
the text that it is printed as. -/
theorem Message.readBack_of_ofBytes {text : List UInt8} {message : Message}
    (read : Message.ofBytes text = .ok message) (without : message.data.WithoutFloats) :
    Message.ofBytes (Text.bytes message.compact) = .ok message := by
  have legible : message.data.Legible contentLimit := Message.gives.decode read
  exact (Message.readable_iff (legible.exact without) message).mpr ⟨legible.shallow, rfl⟩

end EventCorrelation
