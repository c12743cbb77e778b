/-!
# Faults of the bus

Why a bus client cannot be set up or cannot do what it was asked to.
-/

namespace EventCorrelation

/-- The ways to prove an identity to a broker. The last one is known but never used. -/
inductive Mechanism where
  | plain
  | scram
  | oauth
deriving DecidableEq

/-- The name of a mechanism in settings and messages. -/
def Mechanism.name : Mechanism → String
  | .plain => "PLAIN"
  | .scram => "SCRAM"
  | .oauth => "OAUTH2"

inductive BusFault where
  | unknownVersion (version : String)
  | unsupportedMechanism (mechanism : Mechanism)
  | missingGroup
  | encoding (reason : String)
  | publishing (topic reason : String)
  | consuming (reason : String)
  | fetching (reason : String)
  | alreadyDraining (reports : String)
  | closed
deriving DecidableEq

namespace BusFault

def message : BusFault → String
  | .unknownVersion version => "unknown kafka protocol version: " ++ version
  | .unsupportedMechanism mechanism => "SASL mechanism " ++ mechanism.name ++ " is not supported"
  | .missingGroup => "consumer group id is required"
  | .encoding reason => "failed to encode message: " ++ reason
  | .publishing topic reason => "failed to publish to " ++ topic ++ ": " ++ reason
  | .consuming reason => "consume session failed: " ++ reason
  | .fetching reason => "fatal fetch error: " ++ reason
  | .alreadyDraining reports => reports ++ " is already being drained"
  | .closed => "bus client is closed"

/-- The settings are wrong, so another attempt with the same settings fails too. -/
def isSettingFault : BusFault → Bool
  | .unknownVersion _ => true
  | .unsupportedMechanism _ => true
  | .missingGroup => true
  | _ => false

end BusFault

end EventCorrelation
