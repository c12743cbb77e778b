import EventCorrelation.Event
import EventCorrelation.Fingerprint

/-!
# Receivers

Named and versioned channels that events attach to. A receiver's fingerprint covers its type,
description, name, version and the compact text of its schema.
-/

namespace EventCorrelation

open Json

structure Receiver where
  id : ReceiverId
  name : String
  type : String
  version : String
  description : String
  schema : Json
  fingerprint : String
  enabled : Bool
  createdAt : Timestamp
deriving DecidableEq

/-- What a caller supplies of a receiver. -/
structure NewReceiver where
  name : String
  type : String
  version : String
  description : String
  schema : Json
deriving DecidableEq

namespace Receiver

def toJson (receiver : Receiver) : Json :=
  .object [("id", receiver.id.toJson), ("name", .string receiver.name),
    ("type", .string receiver.type), ("version", .string receiver.version),
    ("description", .string receiver.description), ("schema", receiver.schema),
    ("fingerprint", .string receiver.fingerprint), ("enabled", .bool receiver.enabled),
    ("created_at", receiver.createdAt.toJson)]

def reader : RecordReader Receiver where
  name := "EventReceiver"
  shape := Receiver.mk
    <$> required "id" (decodeIdentifier .receiver)
    <*> required "name" decodeString
    <*> required "type" decodeString
    <*> required "version" decodeString
    <*> required "description" decodeString
    <*> required "schema" decodeJson
    <*> required "fingerprint" decodeString
    <*> required "enabled" decodeBool
    <*> required "created_at" decodeTime

instance : Codec Receiver := ⟨toJson, reader.decode⟩

end Receiver

namespace NewReceiver

def toJson (new : NewReceiver) : Json :=
  .object [("name", .string new.name), ("type", .string new.type),
    ("version", .string new.version), ("description", .string new.description),
    ("schema", new.schema)]

/-- Reads a new receiver; description and schema may be left out. -/
def reader : RecordReader NewReceiver where
  name := "NewEventReceiver"
  shape := NewReceiver.mk
    <$> required "name" decodeString
    <*> required "type" decodeString
    <*> required "version" decodeString
    <*> optional "description" decodeString ""
    <*> optional "schema" decodeJson .null

instance : Codec NewReceiver := ⟨toJson, reader.decode⟩

/-- The type is the action and the compact text of the schema the only tag, so another schema is
another identity. -/
def seed (new : NewReceiver) : FingerprintSeed where
  action := new.type
  description := new.description
  name := new.name
  tags := [new.schema.compact]
  version := new.version

/-- The receiver that the input becomes. -/
def toReceiver (new : NewReceiver) (id : ReceiverId) (createdAt : Timestamp) : Receiver where
  id
  name := new.name
  type := new.type
  version := new.version
  description := new.description
  schema := new.schema
  fingerprint := new.seed.fingerprint
  enabled := true
  createdAt

end NewReceiver

end EventCorrelation
