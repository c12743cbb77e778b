import EventCorrelation.ReceiverGroup

/-!
# Intake commands

What the service can be told to create, in an envelope of two members: the kind of command and its
data. The members may come in either order. Where the data come first they are kept until the kind
is known, so the text of the data is checked before the kind and their meaning after it.
-/

namespace EventCorrelation

open Json

inductive IntakeCommand where
  | createEvent (new : NewEvent)
  | createReceiver (new : NewReceiver)
  | createGroup (new : NewGroup)
deriving DecidableEq

namespace IntakeCommand

/-- The kinds of commands. -/
inductive Kind where
  | event
  | receiver
  | group
deriving DecidableEq

namespace Kind

def text : Kind → String
  | .event => "create_event"
  | .receiver => "create_event_receiver"
  | .group => "create_event_receiver_group"

/-- All kinds in declaration order. -/
def all : List Kind := [.event, .receiver, .group]

/-- The kind of a text. -/
def ofText? (text : String) : Option Kind := all.find? (·.text == text)

end Kind

def kind : IntakeCommand → Kind
  | .createEvent _ => .event
  | .createReceiver _ => .receiver
  | .createGroup _ => .group

def toJson (command : IntakeCommand) : Json :=
  let data := match command with
    | .createEvent new => new.toJson
    | .createReceiver new => new.toJson
    | .createGroup new => new.toJson
  .object [("kind", .string command.kind.text), ("data", data)]

/-- What a command is called in complaints. -/
def title : String := "IntakeCommand"

/-- The kind of a name. -/
def nameKind (name : String) : Except Complaint Kind :=
  match Kind.ofText? name with
  | some kind => .ok kind
  | none => .error (.unknownVariant name (Kind.all.map Kind.text))

/-- Reads nothing but `null`. -/
def decodeNull : Decoder Unit := fun _ tree =>
  match tree with
  | .null => .ok ()
  | tree => .error (tree.refuse .unit)

/-- Reads the name of a kind. -/
def decodeKindName : Decoder Kind := fun _ tree =>
  match tree with
  | .string content => do
    let name ← content.mapError .text
    nameKind name
  | tree => .error (tree.refuse .variantName)

/-- Reads a kind in a text: its name, or an object of one member, named like the kind and without a
value. Of anything else only the beginning is looked at. -/
def readKind : Decoder Kind := fun reading tree =>
  match tree with
  | .string _ => decodeKindName reading tree
  | .object members stop => do
    let reading ← enter reading
    match members with
    | [] => match stop with
      | .closed => .error (.text .missingValue)
      | stop =>
        stop.objectReading.mapError .text
        throw (.text .missingValue)
    | (name, value) :: rest =>
      let name ← name.mapError .text
      let kind ← nameKind name
      decodeNull reading value
      match rest, stop with
      | [], .closed => .ok kind
      | [], .endOfText => .error (.text (.endOfText .object))
      | _, _ => .error (.text .missingValue)
  | .broken .nothing faults => .error (.text faults.reading)
  | .broken .quote faults => .error (.text faults.reading)
  | _ => .error (.text .missingValue)

/-- Finds a kind in a value: its name, or an object of one member, named like the kind and without a
value. -/
def findKind : Decoder Kind := fun reading tree =>
  match tree with
  | .string _ => decodeKindName reading tree
  | .object [(name, value)] _ => do
    let name ← name.mapError .text
    let kind ← nameKind name
    decodeNull reading value
    return kind
  | .object _ _ => .error (.wrongValue .map .singleMember)
  | tree => .error (tree.refuse .variantValue)

/-- Decodes a kind. -/
def decodeKind : Decoder Kind := fun reading tree =>
  if reading.origin = .text then readKind reading tree else findKind reading tree

/-- Reads the data of a command of a known kind. -/
def decodeData (kind : Kind) : Decoder IntakeCommand := fun reading tree =>
  match kind with
  | .event => (NewEvent.reader.decode reading tree).map .createEvent
  | .receiver => (NewReceiver.reader.decode reading tree).map .createReceiver
  | .group => (NewGroup.reader.decode reading tree).map .createGroup

/-- How much of an envelope is known. -/
inductive Progress where
  | nothing
  | kind (kind : Kind)
  | data (tree : Tree)
  | command (whole : IntakeCommand)

/-- Reads the member with the kind. -/
def bringKind (reading : Reading) (value : Tree) : Progress → Except Complaint Progress
  | .nothing => (decodeKind reading value).map .kind
  | .data tree => do
    let kind ← decodeKind reading value
    (decodeData kind { reading with origin := .kept } tree).map .command
  | .kind _ => .error (.duplicateField "kind")
  | .command _ => .error (.duplicateField "kind")

/-- Reads the member with the data. -/
def bringData (reading : Reading) (value : Tree) : Progress → Except Complaint Progress
  | .nothing => (decodeJson reading value).map fun _ => .data value
  | .kind kind => (decodeData kind reading value).map .command
  | .data _ => .error (.duplicateField "data")
  | .command _ => .error (.duplicateField "data")

/-- Reads a member of an envelope. -/
def bringMember (reading : Reading) (progress : Progress) (member : Except Fault String × Tree) :
    Except Complaint Progress := do
  let name ← member.1.mapError .text
  if name = "kind" then bringKind reading member.2 progress
  else if name = "data" then bringData reading member.2 progress
  else
    member.2.skip.mapError .text
    return progress

/-- The command of an envelope whose members are all read. -/
def Progress.finish : Progress → Except Complaint IntakeCommand
  | .nothing => .error (.missingField "kind")
  | .data _ => .error (.missingField "kind")
  | .kind _ => .error (.missingField "data")
  | .command whole => .ok whole

/-- Reads a command from an object, or from an array of its kind and its data. -/
def decode : Decoder IntakeCommand := fun reading tree =>
  match tree with
  | .object members stop => do
    let reading ← enter reading
    let progress ← members.foldlM (bringMember reading) .nothing
    stop.objectReading.mapError .text
    progress.finish
  | .array items stop => do
    let reading ← enter reading
    match items with
    | [] =>
      stop.arrayReading.mapError .text
      throw (.wrongLength 0 (.variants title))
    | [first] =>
      let _ ← decodeKindName reading first
      stop.arrayReading.mapError .text
      throw (.wrongLength 1 (.variants title))
    | first :: second :: rest =>
      let kind ← decodeKindName reading first
      let command ← decodeData kind reading second
      if !rest.isEmpty then throw (surplus reading.origin 2 rest.length)
      stop.arrayEnding.mapError .text
      return command
  | tree => .error (tree.refuse (.variants title))

/-- Reads a command from a JSON text. -/
def ofBytes (text : List UInt8) : Except Complaint IntakeCommand :=
  Json.decode decode text

instance : Codec IntakeCommand := ⟨toJson, decode⟩

end IntakeCommand

end EventCorrelation
