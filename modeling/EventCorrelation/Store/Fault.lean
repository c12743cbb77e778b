import EventCorrelation.Database.Fault
import EventCorrelation.Identifier.Basic

/-!
# Faults of stores

Why a store refuses a new entity or cannot answer.
-/

namespace EventCorrelation

inductive StoreFault where
  | notFound (entity id : String)
  | emptyGroup
  | corrupt (entity reason : String)
  | database (fault : DatabaseFault)
deriving DecidableEq

namespace StoreFault

/-- There is no receiver with the identifier. -/
def unknownReceiver (id : ReceiverId) : StoreFault := .notFound "event receiver" id.text

def message : StoreFault → String
  | .notFound entity id => entity ++ " not found: " ++ id
  | .emptyGroup => "event receiver group must reference at least one event receiver"
  | .corrupt entity reason => "invalid stored " ++ entity ++ ": " ++ reason
  | .database fault => fault.message

/-- Something that was referred to is missing. -/
def isNotFound : StoreFault → Bool
  | .notFound _ _ => true
  | _ => false

end StoreFault

end EventCorrelation
