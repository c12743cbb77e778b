import EventCorrelation.Digest.Sha256
import EventCorrelation.Json.Codec
import EventCorrelation.Text.Hex

/-!
# Fingerprints

The identity of a definition's content: the digest of one line that joins a version word and the
definition's fields by single spaces. Field order and separator are part of every stored identity.
-/

namespace EventCorrelation

/-- The fields of a definition that its fingerprint covers. -/
structure FingerprintSeed where
  action : String
  description : String
  name : String
  tags : List String
  version : String
deriving DecidableEq

namespace FingerprintSeed

open Json

/-- The word in front of every digested line. -/
def versionWord : String := "v1"

/-- The words of the digested line. -/
def parts (seed : FingerprintSeed) : List String :=
  [versionWord, seed.action, seed.description, seed.name] ++ seed.tags ++ [seed.version]

/-- The digested line in bytes. -/
def digestInput (seed : FingerprintSeed) : List UInt8 :=
  Text.bytes (" ".intercalate seed.parts)

/-- The fingerprint: the digest in small hexadecimal digits. -/
def fingerprint (seed : FingerprintSeed) : String :=
  String.ofList (Text.hex (Sha256.digest seed.digestInput))

/-- Reads a seed; the tags may be left out. -/
def reader : RecordReader FingerprintSeed where
  name := "FingerprintSeed"
  shape := FingerprintSeed.mk
    <$> required "action" decodeString
    <*> required "description" decodeString
    <*> required "name" decodeString
    <*> optional "tags" (decodeList decodeString) []
    <*> required "version" decodeString

/-- The members of a seed in declaration order. -/
def members (seed : FingerprintSeed) : List (String × Json) :=
  [("action", .string seed.action), ("description", .string seed.description),
    ("name", .string seed.name), ("tags", .array (seed.tags.map .string)),
    ("version", .string seed.version)]

def toJson (seed : FingerprintSeed) : Json := .object seed.members

instance : Codec FingerprintSeed := ⟨toJson, reader.decode⟩

end FingerprintSeed

end EventCorrelation
