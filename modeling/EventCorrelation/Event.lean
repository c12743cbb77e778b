import EventCorrelation.Json.Codec

/-!
# Events

Facts recorded once against one receiver. What a caller supplies becomes an event when the store
gives it an identifier and a creation time.
-/

namespace EventCorrelation

open Json

structure Event where
  id : EventId
  name : String
  version : String
  release : String
  platformId : String
  package : String
  description : String
  payload : Json
  success : Bool
  receiverId : ReceiverId
  createdAt : Timestamp
deriving DecidableEq

/-- What a caller supplies of an event. -/
structure NewEvent where
  name : String
  version : String
  release : String
  platformId : String
  package : String
  description : String
  payload : Json
  success : Bool
  receiverId : ReceiverId
deriving DecidableEq

namespace Event

def toJson (event : Event) : Json :=
  .object [("id", event.id.toJson), ("name", .string event.name),
    ("version", .string event.version), ("release", .string event.release),
    ("platform_id", .string event.platformId), ("package", .string event.package),
    ("description", .string event.description), ("payload", event.payload),
    ("success", .bool event.success), ("event_receiver_id", event.receiverId.toJson),
    ("created_at", event.createdAt.toJson)]

def reader : RecordReader Event where
  name := "Event"
  shape := Event.mk
    <$> required "id" (decodeIdentifier .event)
    <*> required "name" decodeString
    <*> required "version" decodeString
    <*> required "release" decodeString
    <*> required "platform_id" decodeString
    <*> required "package" decodeString
    <*> required "description" decodeString
    <*> required "payload" decodeJson
    <*> required "success" decodeBool
    <*> required "event_receiver_id" (decodeIdentifier .receiver)
    <*> required "created_at" decodeTime

instance : Codec Event := ⟨toJson, reader.decode⟩

end Event

namespace NewEvent

def toJson (new : NewEvent) : Json :=
  .object [("name", .string new.name), ("version", .string new.version),
    ("release", .string new.release), ("platform_id", .string new.platformId),
    ("package", .string new.package), ("description", .string new.description),
    ("payload", new.payload), ("success", .bool new.success),
    ("event_receiver_id", new.receiverId.toJson)]

/-- Reads a new event; description and payload may be left out. -/
def reader : RecordReader NewEvent where
  name := "NewEvent"
  shape := NewEvent.mk
    <$> required "name" decodeString
    <*> required "version" decodeString
    <*> required "release" decodeString
    <*> required "platform_id" decodeString
    <*> required "package" decodeString
    <*> optional "description" decodeString ""
    <*> optional "payload" decodeJson .null
    <*> required "success" decodeBool
    <*> required "event_receiver_id" (decodeIdentifier .receiver)

instance : Codec NewEvent := ⟨toJson, reader.decode⟩

/-- The event that the input becomes. -/
def toEvent (new : NewEvent) (id : EventId) (createdAt : Timestamp) : Event where
  id
  name := new.name
  version := new.version
  release := new.release
  platformId := new.platformId
  package := new.package
  description := new.description
  payload := new.payload
  success := new.success
  receiverId := new.receiverId
  createdAt

end NewEvent

end EventCorrelation
