import EventCorrelation.Watcher.Basic

/-!
# A watcher over time

Plays both tasks of a watcher under a clock of its own: a fetch and a call of the handler take their
time, everything else takes none. What others do to the watcher is given in advance, each act with
its time.
-/

namespace EventCorrelation

/-- What others do to a watcher. -/
inductive WatchAct where
  /-- Asks how many records are queued. -/
  | probe
  | startTask
  | stopTask
  | nudgeTask
  | nudge
  | abandon
  | shutdown
deriving DecidableEq

/-- What an act answers. -/
inductive WatchAnswer where
  | queued (count : Nat)
  | started (outcome : Except BusFault Unit)

/-- A watcher at some time of its run. -/
structure WatchTimeline (ω : Type) where
  now : Nat
  /-- When the batch that is being fetched comes. -/
  fetchDue : Nat
  /-- When the call of the handler returns. -/
  taskDue : Nat
  watcher : Watcher ω
  answers : List (Nat × WatchAnswer)
  /-- When each call of the handler returned. -/
  handled : List (Nat × Record)
  /-- When the poll loop ended. -/
  endedAt : Option Nat

/-- How a run went. -/
structure WatchRun (ω : Type) where
  /-- Once the poll loop has ended and all acts are through. -/
  ended : WatchTimeline ω
  /-- Once the handler task was stopped as well. -/
  stopped : WatchTimeline ω

namespace WatchTimeline

variable {ω : Type}

def initial (watcher : Watcher ω) : WatchTimeline ω := ⟨0, 0, 0, watcher, [], [], none⟩

/-- When the poll loop can go on by itself; a fetch takes its time. -/
def pollTime? (timeline : WatchTimeline ω) : Option Nat :=
  match timeline.watcher.poll with
  | .fetching _ => some timeline.fetchDue
  | .deciding => some timeline.now
  | .queueing _ => some timeline.now
  | _ => none

/-- The poll loop has taken a step. -/
def pollTo (watcher : Watcher ω) (timeline : WatchTimeline ω) : WatchTimeline ω :=
  match watcher.poll with
  | .fetching fetch => { timeline with watcher, fetchDue := timeline.now + fetch.waitMillis }
  | .ended _ => { timeline with watcher, endedAt := some timeline.now }
  | _ => { timeline with watcher }

/-- A step of the handler task that needs no time, if there is one. Its flag goes first. -/
def idleTask? (delayMillis : Nat) (timeline : WatchTimeline ω) : Option (WatchTimeline ω) :=
  match timeline.watcher.noticeTask? with
  | some watcher => some { timeline with watcher }
  | none => timeline.watcher.take?.map fun watcher =>
      { timeline with watcher, taskDue := timeline.now + delayMillis }

/-- The handler returns. -/
def completeTask? (handle : Record → ω → Bool × ω) (timeline : WatchTimeline ω) :
    Option (WatchTimeline ω) :=
  match timeline.watcher.task with
  | .working record => (timeline.watcher.complete? handle).map fun watcher =>
      { timeline with watcher, handled := timeline.handled ++ [(timeline.now, record)] }
  | _ => none

/-- The poll loop goes on, if it can at this time. -/
def pollNow? (accepts : Record → Bool) (timeline : WatchTimeline ω) : Option (WatchTimeline ω) :=
  if timeline.pollTime?.any (· ≤ timeline.now) then
    (timeline.watcher.poll? accepts).map fun watcher => timeline.pollTo watcher
  else none

/-- The handler returns, if it does at this time. -/
def completeNow? (handle : Record → ω → Bool × ω) (timeline : WatchTimeline ω) :
    Option (WatchTimeline ω) :=
  if timeline.taskDue ≤ timeline.now then timeline.completeTask? handle else none

/-- A step that can be taken at this time, if there is one. -/
def step? (delayMillis : Nat) (accepts : Record → Bool) (handle : Record → ω → Bool × ω)
    (timeline : WatchTimeline ω) : Option (WatchTimeline ω) :=
  (timeline.idleTask? delayMillis).or
    ((timeline.watcher.noticePoll?.map fun watcher => timeline.pollTo watcher).or
      ((timeline.completeNow? handle).or (timeline.pollNow? accepts)))

/-- The next time at which something comes to an end. -/
def nextTime? (timeline : WatchTimeline ω) : Option Nat :=
  let fetching := match timeline.watcher.poll with
    | .fetching _ => [timeline.fetchDue]
    | _ => []
  let working := match timeline.watcher.task with
    | .working _ => [timeline.taskDue]
    | _ => []
  (fetching ++ working).min?

/-- At most the given number of steps and moves of the clock, up to the given time; without one,
all. -/
def pass (delayMillis : Nat) (accepts : Record → Bool) (handle : Record → ω → Bool × ω)
    (limit : Option Nat) : Nat → WatchTimeline ω → WatchTimeline ω
  | 0, timeline => timeline
  | fuel + 1, timeline => match timeline.step? delayMillis accepts handle with
    | some next => pass delayMillis accepts handle limit fuel next
    | none => match timeline.nextTime? with
      | some time =>
        if limit.all (time ≤ ·) then
          pass delayMillis accepts handle limit fuel { timeline with now := time }
        else timeline
      | none => timeline

/-- Everything that happens up to the given time. Each step is preceded by at most one move of the
clock, and each flag may wake its task once. -/
def advance (delayMillis : Nat) (accepts : Record → Bool) (handle : Record → ω → Bool × ω)
    (limit : Option Nat) (timeline : WatchTimeline ω) : WatchTimeline ω :=
  timeline.pass delayMillis accepts handle limit (2 * (timeline.watcher.remaining + 4))

/-- The time comes, with everything that happens before it. -/
def wait (delayMillis : Nat) (accepts : Record → Bool) (handle : Record → ω → Bool × ω)
    (time : Nat) (timeline : WatchTimeline ω) : WatchTimeline ω :=
  if time ≤ timeline.now then timeline
  else { timeline.advance delayMillis accepts handle (some (time - 1)) with now := time }

def answer (given : WatchAnswer) (timeline : WatchTimeline ω) : WatchTimeline ω :=
  { timeline with answers := timeline.answers ++ [(timeline.now, given)] }

/-- Somebody does something to the watcher. -/
def perform (act : WatchAct) (timeline : WatchTimeline ω) : WatchTimeline ω :=
  let watcher := timeline.watcher
  match act with
  | .probe => timeline.answer (.queued watcher.queue.length)
  | .startTask =>
    let (outcome, watcher) := watcher.startTask
    { timeline with watcher }.answer (.started outcome)
  | .stopTask =>
    { timeline with watcher := { watcher with taskFlag := watcher.taskFlag.write true } }
  | .nudgeTask =>
    { timeline with watcher := { watcher with taskFlag := watcher.taskFlag.write false } }
  | .nudge => { timeline with watcher := { watcher with pollFlag := watcher.pollFlag.write false } }
  | .abandon => { timeline with watcher := { watcher with pollFlag := watcher.pollFlag.abandon } }
  | .shutdown =>
    { timeline with watcher := { watcher with pollFlag := watcher.pollFlag.write true } }

/-- The whole run: acts before it, acts during it, its end, and after a while the end of the handler
task. -/
def play (delayMillis : Nat) (accepts : Record → Bool) (handle : Record → ω → Bool × ω)
    (before : List WatchAct) (acts : List (Nat × WatchAct)) (settleMillis : Nat)
    (watcher : Watcher ω) : WatchRun ω :=
  let prepared := before.foldl (fun timeline act => timeline.perform act) (initial watcher)
  let begun := { prepared with watcher := prepared.watcher.start }
  let acted := acts.foldl (fun timeline act =>
    ((timeline.wait delayMillis accepts handle act.1).perform act.2).advance
      delayMillis accepts handle (some act.1)) begun
  let through := acted.advance delayMillis accepts handle none
  let ended := acted.advance delayMillis accepts handle (some (through.endedAt.getD acted.now))
  let settled := ended.wait delayMillis accepts handle (ended.now + settleMillis)
  let stopped := (settled.perform .stopTask).advance delayMillis accepts handle none
  ⟨ended, stopped⟩

end WatchTimeline

end EventCorrelation
