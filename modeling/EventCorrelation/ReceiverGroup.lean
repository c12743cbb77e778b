import EventCorrelation.Receiver

/-!
# Receiver groups

Named sets of receivers whose joint success means something. Members given more than once count
once, where they first occur.
-/

namespace EventCorrelation

open Json

structure ReceiverGroup where
  id : GroupId
  name : String
  type : String
  version : String
  description : String
  enabled : Bool
  memberIds : List ReceiverId
  createdAt : Timestamp
  updatedAt : Timestamp
deriving DecidableEq

/-- What a caller supplies of a group. -/
structure NewGroup where
  name : String
  type : String
  version : String
  description : String
  memberIds : List ReceiverId
deriving DecidableEq

/-- A list of identifiers as a JSON value. -/
def Identifier.listToJson {kind : EntityKind} (ids : List (Identifier kind)) : Json :=
  .array (ids.map Identifier.toJson)

namespace ReceiverGroup

/-- The receiver is a member of the group. -/
def contains (group : ReceiverGroup) (id : ReceiverId) : Bool :=
  group.memberIds.contains id

def toJson (group : ReceiverGroup) : Json :=
  .object [("id", group.id.toJson), ("name", .string group.name), ("type", .string group.type),
    ("version", .string group.version), ("description", .string group.description),
    ("enabled", .bool group.enabled),
    ("event_receiver_ids", Identifier.listToJson group.memberIds),
    ("created_at", group.createdAt.toJson), ("updated_at", group.updatedAt.toJson)]

def reader : RecordReader ReceiverGroup where
  name := "EventReceiverGroup"
  shape := ReceiverGroup.mk
    <$> required "id" (decodeIdentifier .group)
    <*> required "name" decodeString
    <*> required "type" decodeString
    <*> required "version" decodeString
    <*> required "description" decodeString
    <*> required "enabled" decodeBool
    <*> required "event_receiver_ids" (decodeList (decodeIdentifier .receiver))
    <*> required "created_at" decodeTime
    <*> required "updated_at" decodeTime

instance : Codec ReceiverGroup := ⟨toJson, reader.decode⟩

end ReceiverGroup

namespace NewGroup

def toJson (new : NewGroup) : Json :=
  .object [("name", .string new.name), ("type", .string new.type),
    ("version", .string new.version), ("description", .string new.description),
    ("event_receiver_ids", Identifier.listToJson new.memberIds)]

/-- Reads a new group; the description may be left out. -/
def reader : RecordReader NewGroup where
  name := "NewEventReceiverGroup"
  shape := NewGroup.mk
    <$> required "name" decodeString
    <*> required "type" decodeString
    <*> required "version" decodeString
    <*> optional "description" decodeString ""
    <*> required "event_receiver_ids" (decodeList (decodeIdentifier .receiver))

instance : Codec NewGroup := ⟨toJson, reader.decode⟩

/-- The members in the order of their first occurrence, each once. -/
def members (new : NewGroup) : List ReceiverId :=
  new.memberIds.foldl (fun kept id => if kept.contains id then kept else kept ++ [id]) []

/-- The type is the action and the members are the tags. -/
def seed (new : NewGroup) : FingerprintSeed where
  action := new.type
  description := new.description
  name := new.name
  tags := new.members.map Identifier.text
  version := new.version

/-- The group that the input becomes. -/
def toGroup (new : NewGroup) (id : GroupId) (createdAt : Timestamp) : ReceiverGroup where
  id
  name := new.name
  type := new.type
  version := new.version
  description := new.description
  enabled := true
  memberIds := new.members
  createdAt
  updatedAt := createdAt

end NewGroup

end EventCorrelation
