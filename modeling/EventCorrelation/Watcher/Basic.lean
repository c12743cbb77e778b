import EventCorrelation.Bus.Fault
import EventCorrelation.Bus.Record
import EventCorrelation.ShutdownFlag

/-!
# Watchers

A watcher has two tasks joined by a queue of limited length. The poll loop fetches batches of
records and puts those that are accepted into the queue, waiting for room if it is full. The
handler task takes them out and calls a handler on each, once, whatever the handler makes of it.
Each task has a shutdown flag of its own.

Both tasks move in steps that take effect at once each, in any order.
-/

namespace EventCorrelation

/-- What a source of records answers to a request for a batch, and how long it takes. -/
structure Fetch where
  waitMillis : Nat
  outcome : Except BusFault (List Record)

/-- What the poll loop is doing. -/
inductive PollPhase where
  | outside
  /-- About to ask for a batch, unless it is to stop. -/
  | deciding
  | fetching (fetch : Fetch)
  /-- The source has nothing further. -/
  | idling
  /-- Putting accepted records into the queue. -/
  | queueing (records : List Record)
  | ended (result : Except BusFault Unit)

/-- What the handler task is doing. -/
inductive TaskPhase where
  | notStarted
  | waiting
  | working (record : Record)
  | stopped
deriving DecidableEq

/-- A watcher whose handler has states `ω`. -/
structure Watcher (ω : Type) where
  /-- What the source has yet to answer. -/
  script : List Fetch
  poll : PollPhase
  pollFlag : ShutdownFlag
  queue : List Record
  task : TaskPhase
  taskFlag : ShutdownFlag
  handler : ω
  /-- The number of calls of the handler that have returned. -/
  handledCount : Nat
  /-- The records of every batch so far. -/
  fetched : List Record
  /-- The records that were ever put into the queue. -/
  queued : List Record
  /-- The records that the handler was called on. -/
  handled : List Record

/-- How the poll loop reports that the source failed. -/
def BusFault.ofFetch (fault : BusFault) : BusFault :=
  match fault with
  | .fetching reason => .fetching reason
  | other => .fetching other.message

namespace Watcher

variable {ω : Type}

/-- The length of the queue when it is full. -/
def capacity : Nat := 100

/-- What there is only one of. -/
def taskTitle : String := "watcher task queue"

/-- A watcher before its tasks have begun. -/
def initial (script : List Fetch) (handler : ω) : Watcher ω where
  script
  poll := .outside
  pollFlag := .lowered
  queue := []
  task := .notStarted
  taskFlag := .lowered
  handler
  handledCount := 0
  fetched := []
  queued := []
  handled := []

/-- The poll loop begins. -/
def start (watcher : Watcher ω) : Watcher ω := { watcher with poll := .deciding }

/-- The handler task begins, once. -/
def startTask (watcher : Watcher ω) : Except BusFault Unit × Watcher ω :=
  match watcher.task with
  | .notStarted => (.ok (), { watcher with task := .waiting })
  | _ => (.error (.alreadyDraining taskTitle), watcher)

/-- The handler task has gone, and what it left in the queue with it. -/
def isAbandoned (watcher : Watcher ω) : Bool := watcher.task == .stopped

/-- The poll loop ends. -/
def finish (result : Except BusFault Unit) (watcher : Watcher ω) : Watcher ω :=
  { watcher with poll := .ended result }

/-- Asks for the next batch, unless the poll loop is to stop. -/
def decide (watcher : Watcher ω) : Watcher ω :=
  if watcher.pollFlag.isSet then watcher.finish (.ok ())
  else match watcher.script with
    | [] => { watcher with poll := .idling }
    | fetch :: rest => { watcher with poll := .fetching fetch, script := rest }

/-- The source answers. -/
def receive (accepts : Record → Bool) (fetch : Fetch) (watcher : Watcher ω) : Watcher ω :=
  match fetch.outcome with
  | .error fault => watcher.finish (.error fault.ofFetch)
  | .ok records => { watcher with
      fetched := watcher.fetched ++ records, poll := .queueing (records.filter accepts) }

/-- Puts a record into the queue, if there is room. -/
def put? (record : Record) (rest : List Record) (watcher : Watcher ω) : Option (Watcher ω) :=
  if watcher.isAbandoned then some (watcher.finish (.error .closed))
  else if watcher.queue.length < capacity then
    some { watcher with
      queue := watcher.queue ++ [record], queued := watcher.queued ++ [record]
      poll := .queueing rest }
  else none

/-- The poll loop goes on by itself, if it can. -/
def poll? (accepts : Record → Bool) (watcher : Watcher ω) : Option (Watcher ω) :=
  match watcher.poll with
  | .deciding => some watcher.decide
  | .fetching fetch => some (watcher.receive accepts fetch)
  | .queueing [] => some { watcher with poll := .deciding }
  | .queueing (record :: rest) => watcher.put? record rest
  | _ => none

/-- The poll loop after its flag has woken it: it stops, or goes on with what comes next. -/
def wakePoll (next : PollPhase) (watcher : Watcher ω) : Watcher ω :=
  let noticed := { watcher with pollFlag := watcher.pollFlag.seen }
  if watcher.pollFlag.stops then noticed.finish (.ok ()) else { noticed with poll := next }

/-- The flag of the poll loop wakes it, if it can. The batch that was being fetched, or the record
that was being put into the queue, is lost. -/
def noticePoll? (watcher : Watcher ω) : Option (Watcher ω) :=
  if watcher.pollFlag.wakes then
    match watcher.poll with
    | .fetching _ => some (watcher.wakePoll .deciding)
    | .idling => some (watcher.wakePoll .deciding)
    | .queueing (_ :: rest) => some (watcher.wakePoll (.queueing rest))
    | _ => none
  else none

/-- The handler task takes a record and calls the handler on it, if there is one. A task that waits
looks at its flag first; a write that comes right after that leaves the record taken. -/
def take? (watcher : Watcher ω) : Option (Watcher ω) :=
  match watcher.task, watcher.queue with
  | .waiting, record :: rest =>
    some { watcher with
      queue := rest, task := .working record, handled := watcher.handled ++ [record] }
  | _, _ => none

/-- The handler returns. -/
def complete? (handle : Record → ω → Bool × ω) (watcher : Watcher ω) : Option (Watcher ω) :=
  match watcher.task with
  | .working record =>
    some { watcher with
      handler := (handle record watcher.handler).2, handledCount := watcher.handledCount + 1
      task := .waiting }
  | _ => none

/-- The flag of the handler task wakes it, if it can. -/
def noticeTask? (watcher : Watcher ω) : Option (Watcher ω) :=
  match watcher.task with
  | .waiting =>
    if watcher.taskFlag.wakes then
      let noticed := { watcher with taskFlag := watcher.taskFlag.seen }
      some (if watcher.taskFlag.stops then { noticed with task := .stopped, queue := [] }
        else noticed)
    else none
  | _ => none

/-- What the handler task answers once it is through. -/
def taskResult? (watcher : Watcher ω) : Option Nat :=
  match watcher.task with
  | .stopped => some watcher.handledCount
  | _ => none

/-- How the poll loop ended. -/
def result? (watcher : Watcher ω) : Option (Except BusFault Unit) :=
  match watcher.poll with
  | .ended result => some result
  | _ => none

/-- More than the number of steps that both tasks can take by themselves. -/
def remaining (watcher : Watcher ω) : Nat :=
  let size : Fetch → Nat := fun fetch => match fetch.outcome with
    | .ok records => 3 * records.length + 4
    | .error _ => 4
  let polling := match watcher.poll with
    | .deciding => 1
    | .fetching fetch => size fetch
    | .queueing records => 3 * records.length + 2
    | _ => 0
  let working := match watcher.task with
    | .waiting => 1
    | .working _ => 2
    | _ => 0
  polling + working + 2 * watcher.queue.length +
    (watcher.script.map fun fetch => size fetch + 1).foldr (· + ·) 0

end Watcher

end EventCorrelation
