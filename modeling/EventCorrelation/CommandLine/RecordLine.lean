import EventCorrelation.Bus.Record
import EventCorrelation.CommandLine.Style
import EventCorrelation.Message

/-!
# Lines of records

How a record is shown: a message in the format that was asked for, anything else as the place of the
record and its text.
-/

namespace EventCorrelation

inductive OutputFormat where
  | text
  | json
  | yaml
deriving DecidableEq

namespace OutputFormat

def name : OutputFormat → String
  | .text => "text"
  | .json => "json"
  | .yaml => "yaml"

def all : List OutputFormat := [.text, .json, .yaml]

def ofName? (name : String) : Option OutputFormat := all.find? (·.name == name)

/-- What is said about a name that belongs to no format. -/
def unknownMessage (name : String) : String := "invalid variant: " ++ name

/-- A YAML document without the blanks at its end. -/
def document (text : String) : String := "---\n" ++ Text.trimEnd text

end OutputFormat

namespace Record

/-- The message in a record, if there is one. -/
def message? (record : Record) : Option Message :=
  match record.decode Message.reader.decode with
  | .ok message => some message
  | .error _ => none

/-- What stands for a payload that is not a text. -/
def binaryMark : String := "<binary payload>"

/-- A record that is no message. -/
def foreignLine (colored : Bool) (record : Record) : String :=
  Style.dimmed.paint colored record.position ++ " " ++ record.payloadText?.getD binaryMark

/-- A message in one line for people. -/
def textLine (colored : Bool) (record : Record) (message : Message) : String :=
  let outcome :=
    if message.success then Style.green.paint colored "ok" else Style.red.paint colored "failed"
  Style.dimmed.paint colored record.position ++ " " ++ outcome ++ " " ++
    Style.bold.paint colored message.type ++ " " ++ message.source ++ " " ++ message.name ++ "@" ++
    message.version

/-- A record in a format. -/
def render (colored : Bool) (format : OutputFormat) (record : Record) : String :=
  match record.message? with
  | none => record.foreignLine colored
  | some message => match format with
    | .text => record.textLine colored message
    | .json => message.compact
    | .yaml => OutputFormat.document message.yaml

end Record

end EventCorrelation
