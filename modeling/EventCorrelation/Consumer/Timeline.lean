import EventCorrelation.Consumer.Member

/-!
# A member over time

Plays the run of a member under a clock of its own. The waits of the member end when their time has
come; what others do to it is given in advance, each act with its time. What happens is written down
with the time at which it happened.
-/

namespace EventCorrelation

/-- The times that do not hang on a session. -/
structure MemberPace where
  pauseMillis : Nat
  workMillis : Nat
deriving DecidableEq

/-- What others do to a member. -/
inductive MemberAct where
  | takeReady
  | close
  /-- The shutdown flag is written without being set. -/
  | nudge
  | abandon
  | shutdown
  /-- The member is run again, with its shutdown flag as it stands. -/
  | rerun
deriving DecidableEq

/-- A line of the record of a run. -/
inductive MemberLine where
  | happened (event : MemberEvent)
  | readyTaken (given : Bool)
  | closed (outcome : Except BusFault Unit)
  | acted (act : MemberAct)

/-- A member at some time of its run. -/
structure MemberTimeline (ω : Type) where
  now : Nat
  /-- When the wait of the member ends. -/
  due : Option Nat
  member : Member ω
  /-- The signals that were handed out, in order. -/
  taken : List Nat
  lines : List (Nat × MemberLine)

/-- How long a phase lasts, unless it is cut short. -/
def MemberPhase.millis? (pace : MemberPace) : MemberPhase → Option Nat
  | .deciding => some 0
  | .joining session => some session.joinMillis
  | .waiting session [] => some session.tailMillis
  | .waiting session (_ :: _) => some session.gapMillis
  | .working _ _ _ => some pace.workMillis
  | .pausing => some pace.pauseMillis
  | _ => none

namespace MemberTimeline

variable {ω : Type}

/-- A member that has not been run. -/
def initial (member : Member ω) : MemberTimeline ω := ⟨0, none, member, [], []⟩

def write (line : MemberLine) (timeline : MemberTimeline ω) : MemberTimeline ω :=
  { timeline with lines := timeline.lines ++ [(timeline.now, line)] }

/-- The member has become another; what happened to it is written down. -/
def become (member : Member ω) (timeline : MemberTimeline ω) : MemberTimeline ω :=
  (member.history.drop timeline.member.history.length).foldl
    (fun timeline event => timeline.write (.happened event)) { timeline with member }

/-- The member has come to a new phase. -/
def enter (pace : MemberPace) (member : Member ω) (timeline : MemberTimeline ω) :
    MemberTimeline ω :=
  { timeline.become member with
    due := (member.phase.millis? pace).map fun millis => timeline.now + millis }

/-- At most the given number of steps that are due by the given time; without one, all. -/
def pass (pace : MemberPace) (work : Record → ω → Bool × ω) (limit : Option Nat) :
    Nat → MemberTimeline ω → MemberTimeline ω
  | 0, timeline => timeline
  | fuel + 1, timeline => match timeline.due, timeline.member.proceed? work with
    | some due, some member =>
      if limit.all (due ≤ ·) then
        pass pace work limit fuel ({ timeline with now := due }.enter pace member)
      else timeline
    | _, _ => timeline

/-- Every step that is due by the given time. -/
def advance (pace : MemberPace) (work : Record → ω → Bool × ω) (limit : Option Nat)
    (timeline : MemberTimeline ω) : MemberTimeline ω :=
  timeline.pass pace work limit timeline.member.remaining

/-- The shutdown flag wakes the member, if it can. -/
def wake (pace : MemberPace) (timeline : MemberTimeline ω) : MemberTimeline ω :=
  match timeline.member.notice? with
  | none => timeline
  | some member => timeline.enter pace member

/-- The shutdown flag has changed. -/
def reflag (pace : MemberPace) (act : MemberAct) (change : ShutdownFlag → ShutdownFlag)
    (timeline : MemberTimeline ω) : MemberTimeline ω :=
  let member := { timeline.member with shutdown := change timeline.member.shutdown }
  ((timeline.write (.acted act)).become member).wake pace

/-- The member begins to run. -/
def start (pace : MemberPace) (timeline : MemberTimeline ω) : MemberTimeline ω :=
  timeline.enter pace timeline.member.start

/-- Somebody does something to the member. Its client may fail to be released. -/
def perform (pace : MemberPace) (failing : Option BusFault) (act : MemberAct)
    (timeline : MemberTimeline ω) : MemberTimeline ω :=
  match act with
  | .takeReady =>
    let (signal, member) := timeline.member.takeReady
    { (timeline.become member).write (.readyTaken signal.isSome) with
      taken := timeline.taken ++ signal.toList }
  | .close =>
    let (outcome, member) := timeline.member.close failing
    (timeline.become member).write (.closed outcome)
  | .nudge => timeline.reflag pace act (·.write false)
  | .abandon => timeline.reflag pace act (·.abandon)
  | .shutdown => timeline.reflag pace act (·.write true)
  | .rerun =>
    let member := { timeline.member with shutdown := timeline.member.shutdown.seen }
    (timeline.enter pace member.start.decide).wake pace

/-- The time comes, with every step that is due before it. -/
def wait (pace : MemberPace) (work : Record → ω → Bool × ω) (time : Nat)
    (timeline : MemberTimeline ω) : MemberTimeline ω :=
  if time ≤ timeline.now then timeline
  else { timeline.advance pace work (some (time - 1)) with now := time }

/-- An act at its time, and what comes of it at once. -/
def performAt (pace : MemberPace) (work : Record → ω → Bool × ω) (failing : Option BusFault)
    (timeline : MemberTimeline ω) (act : Nat × MemberAct) : MemberTimeline ω :=
  ((timeline.wait pace work act.1).perform pace failing act.2).advance pace work (some act.1)

/-- The whole run: the acts before it, the acts during it, its end, and the acts after it. -/
def play (pace : MemberPace) (work : Record → ω → Bool × ω) (failing : Option BusFault)
    (before : List MemberAct) (acts : List (Nat × MemberAct)) (after : List MemberAct)
    (member : Member ω) : MemberTimeline ω :=
  let prepared := before.foldl (fun timeline act => timeline.perform pace failing act)
    (initial member)
  let ended := (acts.foldl (performAt pace work failing) (prepared.start pace)).advance pace work none
  after.foldl (fun timeline act =>
    (timeline.perform pace failing act).advance pace work none) ended

/-- What has become of the signals that were handed out. -/
def takenSignals (timeline : MemberTimeline ω) : List Signal :=
  timeline.taken.filterMap fun number => timeline.member.readiness.signals[number]?

end MemberTimeline

end EventCorrelation
