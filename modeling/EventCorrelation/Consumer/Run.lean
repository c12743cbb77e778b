import EventCorrelation.Consumer.Member

/-!
# Runs of a member

Everything that can happen to a member, in any order: its own steps, the wake-ups by its shutdown
flag, and what others do in between. A schedule lists such moves one by one, so every point at which
a run can be cut short is a point of some schedule.

What a run made of the records is read off the history of the member, which names the record
whenever the worker is called, whenever a call returns, and whenever a record is marked.
-/

namespace EventCorrelation

/-- What can happen next to a member. -/
inductive MemberMove where
  | proceed
  | notice
  /-- The member is run, with the given shutdown flag. -/
  | start (flag : ShutdownFlag)
  | takeReady
  | close (failing : Option BusFault)
  /-- The shutdown flag is written. -/
  | write (value : Bool)
  | abandon
deriving DecidableEq

namespace MemberMove

/-- The move leaves the shutdown flag and the client alone. -/
def isQuiet : MemberMove → Bool
  | .proceed => true
  | .takeReady => true
  | _ => false

/-- The move raises no flag and abandons none. -/
def isCalm : MemberMove → Bool
  | .start flag => !flag.isSet && flag.hasOwner
  | .write value => !value
  | .abandon => false
  | _ => true

/-- The move leaves a write to the flag for the member to notice. -/
def isWrite : MemberMove → Bool
  | .start flag => flag.isUnseen
  | .write _ => true
  | _ => false

end MemberMove

namespace MemberPhase

/-- The member is being run. -/
def isRunning : MemberPhase → Bool
  | .outside => false
  | .stopped => false
  | _ => true

/-- The record that the worker has been called on. -/
def inHand : MemberPhase → List Record
  | .working _ record _ => [record]
  | _ => []

end MemberPhase

namespace MemberEvent

def handed? : MemberEvent → Option Record
  | .handed record => some record
  | _ => none

def marked? : MemberEvent → Option Record
  | .marked record => some record
  | _ => none

/-- The event is about the work on a record. -/
def isWork : MemberEvent → Bool
  | .handed _ => true
  | .handled _ _ => true
  | .marked _ => true
  | _ => false

end MemberEvent

namespace Session

/-- The records that a session brings if nobody cuts it short. -/
def log (session : Session) : List Record :=
  match session.refusal with
  | some _ => []
  | none => session.records

/-- The session may fail, but not because the client is closed. -/
def LeavesOpen (session : Session) : Prop :=
  session.refusal ≠ some .closed ∧ session.ending ≠ some .closed

end Session

namespace Member

variable {ω : Type}

/-- The member after a move. A move that cannot be made changes nothing. -/
def move (work : Record → ω → Bool × ω) (member : Member ω) : MemberMove → Member ω
  | .proceed => (member.proceed? work).getD member
  | .notice => member.notice?.getD member
  | .start flag =>
    if member.phase.isRunning then member else { member with shutdown := flag }.start
  | .takeReady => member.takeReady.2
  | .close failing => (member.close failing).2
  | .write value => { member with shutdown := member.shutdown.write value }
  | .abandon => { member with shutdown := member.shutdown.abandon }

/-- The member after the moves of a schedule. -/
def moveAll (work : Record → ω → Bool × ω) (schedule : List MemberMove) (member : Member ω) :
    Member ω :=
  schedule.foldl (move work) member

/-- The record whose call is cut short by a move: the flag wakes the member while the worker is at
it. -/
def cutShort (member : Member ω) : MemberMove → List Record
  | .notice => if member.shutdown.wakes then member.phase.inHand else []
  | _ => []

/-- The records whose calls are cut short along a schedule. -/
def cutShortAlong (work : Record → ω → Bool × ω) : List MemberMove → Member ω → List Record
  | [], _ => []
  | move :: rest, member => member.cutShort move ++ cutShortAlong work rest (member.move work move)

/-- The records that were handed to the worker so far. -/
def handed (member : Member ω) : List Record := member.history.filterMap MemberEvent.handed?

/-- The records that were marked so far. -/
def marked (member : Member ω) : List Record := member.history.filterMap MemberEvent.marked?

/-- What has happened to records so far. -/
def workEvents (member : Member ω) : List MemberEvent := member.history.filter (·.isWork)

end Member

/-- It holds of every session at every moment of it, given the events before the session was asked
for and the events since then. -/
def InEverySession (history : List MemberEvent)
    (holds : List MemberEvent → List MemberEvent → Prop) : Prop :=
  ∀ earlier events later, history = earlier ++ .asked :: events ++ later → .asked ∉ events →
    holds earlier events

/-- Of every session that another one was asked for after, all records that were handed to the worker
are marked. -/
def EarlierSessionsMarked (history : List MemberEvent) : Prop :=
  ∀ earlier events later, history = earlier ++ .asked :: events ++ .asked :: later →
    .asked ∉ events →
      events.filterMap MemberEvent.marked? = events.filterMap MemberEvent.handed?

/-- The records of the session with the given number in a script; none if there is no such
session. -/
def logOfSession (script : List Session) (number : Nat) : List Record :=
  (script[number]?.map Session.log).getD []

/-- What a worker makes of a log, and its state in the end: it is called on each record in turn, and
each is marked as soon as its call has returned. -/
def workThrough {ω : Type} (work : Record → ω → Bool × ω) :
    List Record → ω → List MemberEvent × ω
  | [], worker => ([], worker)
  | record :: rest, worker =>
    let (succeeded, worker) := work record worker
    let (later, worker) := workThrough work rest worker
    (.handed record :: .handled record succeeded :: .marked record :: later, worker)

/-- A run on sessions that leave the client open, begun with a flag that is not set, and disturbed
by nobody. -/
structure QuietRun (script : List Session) (flag : ShutdownFlag) (quiet : List MemberMove) :
    Prop where
  leavesOpen : ∀ session ∈ script, session.LeavesOpen
  notSet : flag.isSet = false
  isQuiet : ∀ move ∈ quiet, move.isQuiet

/-- More than the number of steps that a member takes to get through a script. -/
def stepsThrough (script : List Session) : Nat := (Member.initial script ()).start.remaining

end EventCorrelation
