import EventCorrelation.Bus.Fault
import EventCorrelation.Json.Printer
import EventCorrelation.Text.Utf8

/-!
# Encoders

Values are encoded when their bytes are first asked for, and only then; later questions get the same
answer, a failure included.
-/

namespace EventCorrelation

/-- What is published: a value, or something that cannot be encoded. -/
inductive Content where
  | json (value : Json)
  | broken (reason : String)
deriving DecidableEq

/-- The bytes of the compact JSON text. -/
def Content.bytes : Content → Except String (List UInt8)
  | .json value => .ok (Text.bytes value.compact)
  | .broken reason => .error reason

/-- A value that may have been encoded, with the number of times that this took place. -/
structure Encoder where
  content : Content
  encoded : Option (Except String (List UInt8))
  runs : Nat

namespace Encoder

/-- A value that has not been encoded. -/
def ofContent (content : Content) : Encoder := ⟨content, none, 0⟩

/-- The encoder once the value is encoded. -/
def force (encoder : Encoder) : Encoder :=
  match encoder.encoded with
  | some _ => encoder
  | none => { encoder with encoded := some encoder.content.bytes, runs := encoder.runs + 1 }

/-- The bytes of the value, and the encoder that keeps them. -/
def encode (encoder : Encoder) : Except BusFault (List UInt8) × Encoder :=
  let forced := encoder.force
  ((forced.encoded.getD forced.content.bytes).mapError .encoding, forced)

/-- The number of bytes, zero if there are none, and the encoder that keeps them. -/
def length (encoder : Encoder) : Nat × Encoder :=
  match encoder.encode with
  | (.ok bytes, forced) => (bytes.length, forced)
  | (.error _, forced) => (0, forced)

def isEncoded (encoder : Encoder) : Bool := encoder.encoded.isSome

def describe (encoder : Encoder) : String :=
  "JsonEncoder \x7b encoded: " ++ (if encoder.isEncoded then "true" else "false") ++ " \x7d"

end Encoder

end EventCorrelation
