import EventCorrelation.CommandLine.RecordLine
import EventCorrelation.Fingerprint

/-!
# Lines of fingerprints

How the fingerprint of a definition is shown: alone, or with the fields that it covers.
-/

namespace EventCorrelation.FingerprintSeed

/-- The fingerprint with the fields that it covers. -/
def toAnnotatedJson (seed : FingerprintSeed) : Json :=
  .object (("fingerprint", .string seed.fingerprint) :: seed.members)

/-- The fingerprint of a seed in a format. -/
def render (format : OutputFormat) (seed : FingerprintSeed) : String :=
  match format with
  | .text => seed.fingerprint
  | .json => seed.toAnnotatedJson.compact
  | .yaml => OutputFormat.document (Yaml.print seed.toAnnotatedJson)

end EventCorrelation.FingerprintSeed
