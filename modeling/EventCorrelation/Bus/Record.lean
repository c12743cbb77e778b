import EventCorrelation.Json.Decoder

/-!
# Records

What a consumer receives: a place in the log of a topic, and a key and a payload of any bytes.
-/

namespace EventCorrelation

structure Record where
  topic : String
  partition : Int
  offset : Int
  key : Option (List UInt8)
  payload : Option (List UInt8)
  timestampMillis : Option Int
deriving DecidableEq

namespace Record

/-- The payload as a text, if it is one. -/
def payloadText? (record : Record) : Option String := record.payload.bind Text.ofBytes?

/-- Decodes the payload; a missing payload is an empty text. -/
def decode {α : Type} (decoder : Json.Decoder α) (record : Record) : Except Json.Complaint α :=
  Json.decode decoder (record.payload.getD [])

/-- The place of the record: topic, partition and offset. -/
def position (record : Record) : String :=
  record.topic ++ "/" ++ toString record.partition ++ "@" ++ toString record.offset

end Record

end EventCorrelation
