import EventCorrelation.Json.Printer
import EventCorrelation.Json.Record

/-!
# Codecs

Types whose values are exchanged as JSON: how a value becomes JSON, and how it is decoded.
-/

namespace EventCorrelation

/-- An identifier as a JSON value. -/
def Identifier.toJson {kind : EntityKind} (id : Identifier kind) : Json := .string id.text

/-- A timestamp as a JSON value. -/
def Timestamp.toJson (time : Timestamp) : Json := .string time.text

namespace Json

class Codec (α : Type) where
  encode : α → Json
  decoder : Decoder α

namespace Codec

variable {α : Type} [Codec α]

/-- The compact text of a value. -/
def text (value : α) : String := (encode value).compact

/-- Decodes a value from a text. -/
def ofText (text : String) : Except Complaint α := Json.decode decoder (Text.bytes text)

/-- Decodes a value from a JSON value. -/
def ofJson (value : Json) : Except Complaint α := decodeValue decoder value

instance : Codec Json := ⟨id, decodeJson⟩

instance (kind : EntityKind) : Codec (Identifier kind) :=
  ⟨Identifier.toJson, decodeIdentifier kind⟩

end Codec

end Json

end EventCorrelation
