import EventCorrelation.Consumer.Run

/-!
# Runs of readiness

What happens to the readiness of a member, in any order: the member is about to ask for a session,
a session is set up, or somebody asks for the signal. The history of a run names every signal that
was armed, every set-up and the answer to every caller. The moves of a member come down to such
steps.
-/

namespace EventCorrelation

inductive ReadinessStep where
  /-- The member is about to ask for a session. -/
  | rearm
  | setUp
  /-- Somebody asks for the signal. -/
  | ask
deriving DecidableEq

/-- What comes of a step. -/
inductive ReadinessEvent where
  | armed (number : Nat)
  | setUp
  | handed (number : Nat)
  /-- A caller goes away without a signal. -/
  | refused
deriving DecidableEq

namespace ReadinessEvent

/-- The signal that is armed. -/
def armed? : ReadinessEvent → Option Nat
  | .armed number => some number
  | _ => none

/-- What a caller is answered. -/
def answer? : ReadinessEvent → Option (Option Nat)
  | .handed number => some (some number)
  | .refused => some none
  | _ => none

end ReadinessEvent

/-- Of the callers who are answered so, the first is handed the signal, and the others go away
without one. -/
def FirstServed (number : Nat) : List (Option Nat) → Prop
  | [] => True
  | first :: others => first = some number ∧ ∀ other ∈ others, other = none

/-- Whether a session is set up since the member last asked for one, once a step is made. -/
def setUpAfter (isSetUp : Bool) : ReadinessStep → Bool
  | .rearm => false
  | .setUp => true
  | .ask => isSetUp

/-- Along the steps, a session was set up since the member last asked for one. -/
def setUpSinceAsked (steps : List ReadinessStep) : Bool := steps.foldl setUpAfter false

namespace Readiness

def step (readiness : Readiness) : ReadinessStep → Readiness
  | .rearm => readiness.rearm
  | .setUp => readiness.fire
  | .ask => readiness.take.2

def stepAll (steps : List ReadinessStep) (readiness : Readiness) : Readiness :=
  steps.foldl step readiness

/-- What comes of a step. A signal that is still armed is kept. -/
def events (readiness : Readiness) : ReadinessStep → List ReadinessEvent
  | .rearm => match readiness.armed with
    | some _ => []
    | none => [.armed readiness.signals.length]
  | .setUp => [.setUp]
  | .ask => match readiness.take.1 with
    | some number => [.handed number]
    | none => [.refused]

def eventsAlong : List ReadinessStep → Readiness → List ReadinessEvent
  | [], _ => []
  | step :: rest, readiness => readiness.events step ++ eventsAlong rest (readiness.step step)

/-- What has happened along the steps, from the first arming on. -/
def history (steps : List ReadinessStep) : List ReadinessEvent :=
  .armed 0 :: initial.eventsAlong steps

end Readiness

namespace Member

variable {ω : Type}

/-- What a move does to the readiness of the member. -/
def readinessSteps (member : Member ω) : MemberMove → List ReadinessStep
  | .proceed => match member.phase with
    | .deciding => if member.shutdown.isSet || member.isClosed then [] else [.rearm]
    | .joining session => match session.refusal with
      | some _ => []
      | none => List.replicate session.setUps .setUp
    | _ => []
  | .takeReady => [.ask]
  | _ => []

def readinessStepsAlong (work : Record → ω → Bool × ω) :
    List MemberMove → Member ω → List ReadinessStep
  | [], _ => []
  | move :: rest, member =>
    member.readinessSteps move ++ readinessStepsAlong work rest (member.move work move)

end Member

end EventCorrelation
