import EventCorrelation.Consumer.Readiness
import EventCorrelation.Consumer.Session
import EventCorrelation.ShutdownFlag

/-!
# Members of a consumer group

A member joins its group again and again. In each session it hands the records of its claim to a
worker, one at a time, and marks each as processed once the worker has returned, whatever the worker
made of it. A session that fails is followed by a pause.

The member moves in steps that take effect at once each: it goes on by itself (`proceed?`), or its
shutdown flag wakes it (`notice?`). Writes to the flag, requests for a signal and the release of the
client may come between any two of them.
-/

namespace EventCorrelation

/-- What a member is doing. -/
inductive MemberPhase where
  | outside
  /-- About to begin a session, unless it is to stop. -/
  | deciding
  | joining (session : Session)
  /-- Waiting for the next record, or for the end of the claim. -/
  | waiting (session : Session) (remaining : List Record)
  /-- The worker has been called on a record and has not returned. -/
  | working (session : Session) (record : Record) (remaining : List Record)
  /-- The broker has no further session. -/
  | idling
  | pausing
  | stopped
deriving DecidableEq

/-- What has happened to a member. -/
inductive MemberEvent where
  | asked
  | began (generation : Nat)
  | handed (record : Record)
  | handled (record : Record) (succeeded : Bool)
  | marked (record : Record)
  | ended (generation : Nat)
  | released
  | stopped
deriving DecidableEq

/-- A member whose worker has states `ω`. -/
structure Member (ω : Type) where
  /-- The sessions to come. -/
  sessions : List Session
  /-- The number of sessions that were joined. -/
  generation : Nat
  phase : MemberPhase
  readiness : Readiness
  shutdown : ShutdownFlag
  /-- The client is released. -/
  isClosed : Bool
  worker : ω
  /-- What has happened so far, the oldest first. -/
  history : List MemberEvent

namespace MemberPhase

/-- The phase waits for something, so that a shutdown flag can cut it short. -/
def isWait : MemberPhase → Bool
  | .joining _ => true
  | .waiting _ _ => true
  | .working _ _ _ => true
  | .idling => true
  | .pausing => true
  | _ => false

/-- More than the number of steps left before the sessions to come. -/
def remaining : MemberPhase → Nat
  | .deciding => 1
  | .joining session => 2 * session.records.length + 4
  | .waiting _ records => 2 * records.length + 3
  | .working _ _ records => 2 * records.length + 4
  | .pausing => 2
  | _ => 0

end MemberPhase

namespace Member

variable {ω : Type}

/-- A member before its run. -/
def initial (sessions : List Session) (worker : ω) : Member ω where
  sessions
  generation := 0
  phase := .outside
  readiness := .initial
  shutdown := .lowered
  isClosed := false
  worker
  history := []

/-- The member after something has happened to it. -/
def note (event : MemberEvent) (member : Member ω) : Member ω :=
  { member with history := member.history ++ [event] }

/-- Begins to run. -/
def start (member : Member ω) : Member ω := { member with phase := .deciding }

def stop (member : Member ω) : Member ω := { member with phase := .stopped }.note .stopped

/-- Goes on after a session that failed, unless the client is gone. -/
def recover (fault : BusFault) (member : Member ω) : Member ω :=
  match fault with
  | .closed => member.stop
  | _ => { member with phase := .pausing }

/-- Asks for the next session, unless the member is to stop. -/
def decide (member : Member ω) : Member ω :=
  if member.shutdown.isSet || member.isClosed then member.stop
  else
    let member := { member with readiness := member.readiness.rearm }.note .asked
    match member.sessions with
    | [] => { member with phase := .idling }
    | session :: rest => { member with phase := .joining session, sessions := rest }

/-- The group is joined, or refuses the member. -/
def join (session : Session) (member : Member ω) : Member ω :=
  match session.refusal with
  | some fault => member.recover fault
  | none => { member with
      generation := member.generation + 1
      readiness := (List.range session.setUps).foldl (fun readiness _ => readiness.fire)
        member.readiness
      phase := .waiting session session.records }.note (.began (member.generation + 1))

/-- The claim is through. -/
def finish (session : Session) (member : Member ω) : Member ω :=
  let member := member.note (.ended member.generation)
  match session.ending with
  | some fault => member.recover fault
  | none => { member with phase := .deciding }

/-- The worker returns, and the record is marked. -/
def complete (work : Record → ω → Bool × ω) (session : Session) (record : Record)
    (remaining : List Record) (member : Member ω) : Member ω :=
  let (succeeded, worker) := work record member.worker
  let member := { member with worker, phase := .waiting session remaining }
  (member.note (.handled record succeeded)).note (.marked record)

/-- The member goes on by itself, if it can. -/
def proceed? (work : Record → ω → Bool × ω) (member : Member ω) : Option (Member ω) :=
  match member.phase with
  | .deciding => some member.decide
  | .joining session => some (member.join session)
  | .waiting session [] => some (member.finish session)
  | .waiting session (record :: rest) =>
    some ({ member with phase := .working session record rest }.note (.handed record))
  | .working session record rest => some (member.complete work session record rest)
  | .pausing => some { member with phase := .deciding }
  | _ => none

/-- The shutdown flag wakes the member, if it can. What the member was doing is lost. -/
def notice? (member : Member ω) : Option (Member ω) :=
  if member.phase.isWait && member.shutdown.wakes then
    let noticed := { member with shutdown := member.shutdown.seen }
    some (if member.shutdown.stops then noticed.stop else { noticed with phase := .deciding })
  else none

/-- Hands out the signal of the next set-up, once. -/
def takeReady (member : Member ω) : Option Nat × Member ω :=
  let (signal, readiness) := member.readiness.take
  (signal, { member with readiness })

/-- Releases the client, once. A client may fail to be released. -/
def close (failing : Option BusFault) (member : Member ω) : Except BusFault Unit × Member ω :=
  if member.isClosed then (.ok (), member)
  else
    let outcome := match failing with
      | some fault => .error fault
      | none => .ok ()
    (outcome, { member with isClosed := true }.note .released)

/-- More than the number of steps that the member can take by itself. -/
def remaining (member : Member ω) : Nat :=
  member.phase.remaining +
    (member.sessions.map fun session => 2 * session.records.length + 6).foldr (· + ·) 0

/-- At most the given number of steps by itself. -/
def run (work : Record → ω → Bool × ω) : Nat → Member ω → Member ω
  | 0, member => member
  | fuel + 1, member => match member.proceed? work with
    | none => member
    | some next => run work fuel next

/-- The member once it can do no more by itself. -/
def settle (work : Record → ω → Bool × ω) (member : Member ω) : Member ω :=
  member.run work member.remaining

end Member

end EventCorrelation
