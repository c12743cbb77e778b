import EventCorrelation.ReceiverGroup
import EventCorrelation.Yaml.Printer

/-!
# Messages

The envelope of everything that is published. Its data carry the thing that was created or the group
that became complete; its other fields name the fact, so that a consumer can choose by them alone.
-/

namespace EventCorrelation

open Json

/-- What a message carries. -/
structure MessageData where
  events : List Event
  receivers : List Receiver
  groups : List ReceiverGroup
deriving DecidableEq

/-- A message. Its identifier is any text, because messages of others are read too. -/
structure Message where
  success : Bool
  id : String
  specVersion : String
  type : String
  source : String
  apiVersion : String
  name : String
  version : String
  release : String
  platformId : String
  package : String
  data : MessageData
deriving DecidableEq

namespace MessageData

/-- Data without any entity. -/
def empty : MessageData := ⟨[], [], []⟩

def toJson (data : MessageData) : Json :=
  .object [("events", .array (data.events.map Event.toJson)),
    ("event_receivers", .array (data.receivers.map Receiver.toJson)),
    ("event_groups", .array (data.groups.map ReceiverGroup.toJson))]

/-- Reads message data; every list may be left out. -/
def reader : RecordReader MessageData where
  name := "MessageData"
  shape := MessageData.mk
    <$> optional "events" (decodeList Event.reader.decode) []
    <*> optional "event_receivers" (decodeList Receiver.reader.decode) []
    <*> optional "event_groups" (decodeList ReceiverGroup.reader.decode) []

instance : Codec MessageData := ⟨toJson, reader.decode⟩

end MessageData

namespace Message

/-- The version of the envelope's rules. -/
def currentSpecVersion : String := "1.0"

/-- The version of the names and types of messages. -/
def currentApiVersion : String := "v1"

def receiverCreatedType : String := "quorum.event.receiver.created"

def groupCreatedType : String := "quorum.event.receiver.group.created"

def groupCompleteType : String := "quorum.event.receiver.group.complete"

/-- A message of which only the identifier is set. -/
def blank (id : MessageId) : Message where
  success := false
  id := id.text
  specVersion := currentSpecVersion
  type := ""
  source := ""
  apiVersion := currentApiVersion
  name := ""
  version := ""
  release := ""
  platformId := ""
  package := ""
  data := .empty

/-- The source of messages about a receiver. -/
def receiverSource (id : ReceiverId) : String := "quorum.event.receiver." ++ id.text

/-- The source of messages about a group. -/
def groupSource (id : GroupId) : String := "quorum.event.receiver.group." ++ id.text

/-- Announces a new event. The event's name is the type of the message. -/
def eventCreated (id : MessageId) (event : Event) : Message :=
  { blank id with
    success := event.success
    type := event.name
    source := receiverSource event.receiverId
    name := event.name
    version := event.version
    release := event.release
    platformId := event.platformId
    package := event.package
    data := { MessageData.empty with events := [event] } }

/-- Announces a new receiver. -/
def receiverCreated (id : MessageId) (receiver : Receiver) : Message :=
  { blank id with
    success := true
    type := receiverCreatedType
    source := receiverSource receiver.id
    name := receiver.name
    version := receiver.version
    data := { MessageData.empty with receivers := [receiver] } }

/-- Announces a new group. -/
def groupCreated (id : MessageId) (group : ReceiverGroup) : Message :=
  { blank id with
    success := true
    type := groupCreatedType
    source := groupSource group.id
    name := group.name
    version := group.version
    data := { MessageData.empty with groups := [group] } }

/-- Announces that every member of a group has a successful event. Release, platform and package
are those of the event that completed the group. -/
def groupCompleted (id : MessageId) (group : ReceiverGroup) (trigger : Event) : Message :=
  { groupCreated id group with
    type := groupCompleteType
    release := trigger.release
    platformId := trigger.platformId
    package := trigger.package }

def toJson (message : Message) : Json :=
  .object [("success", .bool message.success), ("id", .string message.id),
    ("specversion", .string message.specVersion), ("type", .string message.type),
    ("source", .string message.source), ("api_version", .string message.apiVersion),
    ("name", .string message.name), ("version", .string message.version),
    ("release", .string message.release), ("platform_id", .string message.platformId),
    ("package", .string message.package), ("data", message.data.toJson)]

def reader : RecordReader Message where
  name := "Message"
  shape := Message.mk
    <$> required "success" decodeBool
    <*> required "id" decodeString
    <*> required "specversion" decodeString
    <*> required "type" decodeString
    <*> required "source" decodeString
    <*> required "api_version" decodeString
    <*> required "name" decodeString
    <*> required "version" decodeString
    <*> required "release" decodeString
    <*> required "platform_id" decodeString
    <*> required "package" decodeString
    <*> required "data" MessageData.reader.decode

instance : Codec Message := ⟨toJson, reader.decode⟩

/-- The compact JSON text of a message. -/
def compact (message : Message) : String := message.toJson.compact

/-- The indented JSON text of a message. -/
def indented (message : Message) : String := message.toJson.indented

/-- The YAML text of a message. -/
def yaml (message : Message) : String := Yaml.print message.toJson

/-- Reads a message from a JSON text. -/
def ofBytes (text : List UInt8) : Except Complaint Message :=
  Json.decode reader.decode text

end Message

end EventCorrelation
