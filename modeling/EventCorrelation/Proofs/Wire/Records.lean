import EventCorrelation.Proofs.Identifier.RoundTrip
import EventCorrelation.Proofs.Json.Records
import EventCorrelation.Proofs.Wire.Exact

/-!
# Reading the records back

Each kind of record is read back from what it is encoded as. The statements follow the shapes of the
readers field by field, so an encoder and a reader that name or order their fields differently would
not get past them.
-/

namespace EventCorrelation

open Json

theorem reads_identifier {kind : EntityKind} (id : Identifier kind) :
    Reads (decodeIdentifier kind) id.toJson id := by
  intro reading admits
  simp only [Identifier.toJson, Tree.ofJson, decodeIdentifier, decodeString, bind, Except.bind,
    mapError_ok, id.parse_text]

theorem reads_time {time : Timestamp} (valid : time.IsValid) :
    Reads decodeTime time.toJson time := by
  intro reading admits
  simp only [Timestamp.toJson, Tree.ofJson, decodeTime, mapError_ok, bind, Except.bind,
    Timestamp.parse_text valid]

theorem reads_identifiers {kind : EntityKind} (ids : List (Identifier kind)) :
    Reads (decodeList (decodeIdentifier kind)) (Identifier.listToJson ids) ids :=
  reads_list fun id _ => reads_identifier id

theorem Event.Exact.reads {event : Event} (exact : event.Exact) :
    Reads Event.reader.decode event.toJson event :=
  reads_record
    ((describes_required "id" (reads_identifier event.id)).map Event.mk
      |>.seq (describes_required "name" (reads_string event.name))
      |>.seq (describes_required "version" (reads_string event.version))
      |>.seq (describes_required "release" (reads_string event.release))
      |>.seq (describes_required "platform_id" (reads_string event.platformId))
      |>.seq (describes_required "package" (reads_string event.package))
      |>.seq (describes_required "description" (reads_string event.description))
      |>.seq (describes_required "payload" (reads_json exact.payload.sorted))
      |>.seq (describes_required "success" (reads_bool event.success))
      |>.seq (describes_required "event_receiver_id" (reads_identifier event.receiverId))
      |>.seq (describes_required "created_at" (reads_time exact.createdAt)))
    (by simp)

theorem Receiver.Exact.reads {receiver : Receiver} (exact : receiver.Exact) :
    Reads Receiver.reader.decode receiver.toJson receiver :=
  reads_record
    ((describes_required "id" (reads_identifier receiver.id)).map Receiver.mk
      |>.seq (describes_required "name" (reads_string receiver.name))
      |>.seq (describes_required "type" (reads_string receiver.type))
      |>.seq (describes_required "version" (reads_string receiver.version))
      |>.seq (describes_required "description" (reads_string receiver.description))
      |>.seq (describes_required "schema" (reads_json exact.schema.sorted))
      |>.seq (describes_required "fingerprint" (reads_string receiver.fingerprint))
      |>.seq (describes_required "enabled" (reads_bool receiver.enabled))
      |>.seq (describes_required "created_at" (reads_time exact.createdAt)))
    (by simp)

theorem ReceiverGroup.Exact.reads {group : ReceiverGroup} (exact : group.Exact) :
    Reads ReceiverGroup.reader.decode group.toJson group :=
  reads_record
    ((describes_required "id" (reads_identifier group.id)).map ReceiverGroup.mk
      |>.seq (describes_required "name" (reads_string group.name))
      |>.seq (describes_required "type" (reads_string group.type))
      |>.seq (describes_required "version" (reads_string group.version))
      |>.seq (describes_required "description" (reads_string group.description))
      |>.seq (describes_required "enabled" (reads_bool group.enabled))
      |>.seq (describes_required "event_receiver_ids" (reads_identifiers group.memberIds))
      |>.seq (describes_required "created_at" (reads_time exact.createdAt))
      |>.seq (describes_required "updated_at" (reads_time exact.updatedAt)))
    (by simp)

theorem NewEvent.reads {new : NewEvent} (exact : new.payload.Exact) :
    Reads NewEvent.reader.decode new.toJson new :=
  reads_record
    ((describes_required "name" (reads_string new.name)).map NewEvent.mk
      |>.seq (describes_required "version" (reads_string new.version))
      |>.seq (describes_required "release" (reads_string new.release))
      |>.seq (describes_required "platform_id" (reads_string new.platformId))
      |>.seq (describes_required "package" (reads_string new.package))
      |>.seq (describes_optional "description" "" (reads_string new.description))
      |>.seq (describes_optional "payload" Json.null (reads_json exact.sorted))
      |>.seq (describes_required "success" (reads_bool new.success))
      |>.seq (describes_required "event_receiver_id" (reads_identifier new.receiverId)))
    (by simp)

theorem NewReceiver.reads {new : NewReceiver} (exact : new.schema.Exact) :
    Reads NewReceiver.reader.decode new.toJson new :=
  reads_record
    ((describes_required "name" (reads_string new.name)).map NewReceiver.mk
      |>.seq (describes_required "type" (reads_string new.type))
      |>.seq (describes_required "version" (reads_string new.version))
      |>.seq (describes_optional "description" "" (reads_string new.description))
      |>.seq (describes_optional "schema" Json.null (reads_json exact.sorted)))
    (by simp)

theorem NewGroup.reads (new : NewGroup) : Reads NewGroup.reader.decode new.toJson new :=
  reads_record
    ((describes_required "name" (reads_string new.name)).map NewGroup.mk
      |>.seq (describes_required "type" (reads_string new.type))
      |>.seq (describes_required "version" (reads_string new.version))
      |>.seq (describes_optional "description" "" (reads_string new.description))
      |>.seq (describes_required "event_receiver_ids" (reads_identifiers new.memberIds)))
    (by simp)

theorem FingerprintSeed.reads (seed : FingerprintSeed) :
    Reads FingerprintSeed.reader.decode seed.toJson seed :=
  reads_record
    ((describes_required "action" (reads_string seed.action)).map FingerprintSeed.mk
      |>.seq (describes_required "description" (reads_string seed.description))
      |>.seq (describes_required "name" (reads_string seed.name))
      |>.seq (describes_optional "tags" [] (reads_list fun tag _ => reads_string tag))
      |>.seq (describes_required "version" (reads_string seed.version)))
    (by simp [FingerprintSeed.members])

theorem MessageData.Exact.reads {data : MessageData} (exact : data.Exact) :
    Reads MessageData.reader.decode data.toJson data :=
  reads_record
    ((describes_optional "events" []
        (reads_list fun event member => (exact.events event member).reads)).map MessageData.mk
      |>.seq (describes_optional "event_receivers" []
        (reads_list fun receiver member => (exact.receivers receiver member).reads))
      |>.seq (describes_optional "event_groups" []
        (reads_list fun group member => (exact.groups group member).reads)))
    (by simp)

theorem Message.reads {message : Message} (exact : message.data.Exact) :
    Reads Message.reader.decode message.toJson message :=
  reads_record
    ((describes_required "success" (reads_bool message.success)).map Message.mk
      |>.seq (describes_required "id" (reads_string message.id))
      |>.seq (describes_required "specversion" (reads_string message.specVersion))
      |>.seq (describes_required "type" (reads_string message.type))
      |>.seq (describes_required "source" (reads_string message.source))
      |>.seq (describes_required "api_version" (reads_string message.apiVersion))
      |>.seq (describes_required "name" (reads_string message.name))
      |>.seq (describes_required "version" (reads_string message.version))
      |>.seq (describes_required "release" (reads_string message.release))
      |>.seq (describes_required "platform_id" (reads_string message.platformId))
      |>.seq (describes_required "package" (reads_string message.package))
      |>.seq (describes_required "data" exact.reads))
    (by simp)

end EventCorrelation
