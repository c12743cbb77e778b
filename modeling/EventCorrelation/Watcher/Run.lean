import EventCorrelation.DealtOut
import EventCorrelation.Watcher.Basic

/-!
# Runs of a watcher

Everything that can happen to a watcher, in any order: the steps of its two tasks, the wake-ups by
their flags, and the writes to these flags. Along a run it is noted which accepted records the poll
loop gives up.
-/

namespace EventCorrelation

/-- What can happen next to a watcher. -/
inductive WatcherMove where
  /-- The poll loop is run. -/
  | start
  | poll
  | noticePoll
  /-- The flag of the poll loop is written. -/
  | write (value : Bool)
  | abandon
  | startTask
  | take
  | complete
  | noticeTask
  /-- The flag of the handler task is written. -/
  | writeTask (value : Bool)
  | abandonTask
deriving DecidableEq

namespace WatcherMove

/-- The move raises no flag and abandons none. -/
def isCalm : WatcherMove → Bool
  | .write value => !value
  | .writeTask value => !value
  | .abandon => false
  | .abandonTask => false
  | _ => true

/-- The flag of the poll loop is written. -/
def isWrite : WatcherMove → Bool
  | .write _ => true
  | _ => false

end WatcherMove

namespace PollPhase

/-- The poll loop is at work. -/
def isRunning : PollPhase → Bool
  | .outside => false
  | .ended _ => false
  | _ => true

/-- The accepted records that are still to be put into the queue. -/
def waiting : PollPhase → List Record
  | .queueing records => records
  | _ => []

end PollPhase

/-- The record that the handler is working on. -/
def TaskPhase.inHand : TaskPhase → List Record
  | .working record => [record]
  | _ => []

/-- A call of the handler that has returned. -/
structure HandlerCall where
  record : Record
  succeeded : Bool
deriving DecidableEq

/-- What a poll loop may report when it ends with a fault: what the source answered, by its own
reason if it is one of fetching and by its text otherwise, or that the handler task is gone. -/
def ExplainsEnd (script : List Fetch) (task : TaskPhase) (fault : BusFault) : Prop :=
  (∃ fetch ∈ script, ∃ cause reason, fetch.outcome = .error cause ∧ fault = .fetching reason ∧
    (cause = .fetching reason ∨ (∀ own, cause ≠ .fetching own) ∧ reason = cause.message)) ∨
  fault = .closed ∧ task = .stopped

namespace Watcher

variable {ω : Type}

/-- The watcher after a move. A move that cannot be made changes nothing. -/
def move (accepts : Record → Bool) (handle : Record → ω → Bool × ω) (watcher : Watcher ω) :
    WatcherMove → Watcher ω
  | .start => if watcher.poll.isRunning then watcher else watcher.start
  | .poll => (watcher.poll? accepts).getD watcher
  | .noticePoll => watcher.noticePoll?.getD watcher
  | .write value => { watcher with pollFlag := watcher.pollFlag.write value }
  | .abandon => { watcher with pollFlag := watcher.pollFlag.abandon }
  | .startTask => watcher.startTask.2
  | .take => watcher.take?.getD watcher
  | .complete => (watcher.complete? handle).getD watcher
  | .noticeTask => watcher.noticeTask?.getD watcher
  | .writeTask value => { watcher with taskFlag := watcher.taskFlag.write value }
  | .abandonTask => { watcher with taskFlag := watcher.taskFlag.abandon }

/-- The watcher after the moves of a schedule. -/
def moveAll (accepts : Record → Bool) (handle : Record → ω → Bool × ω)
    (schedule : List WatcherMove) (watcher : Watcher ω) : Watcher ω :=
  schedule.foldl (move accepts handle) watcher

/-- The accepted records that the poll loop gives up in a move: all that wait if it ends, and the
first of them if it is woken while it waits for room. -/
def givenUp (watcher : Watcher ω) : WatcherMove → List Record
  | .poll => if watcher.isAbandoned then watcher.poll.waiting else []
  | .noticePoll =>
    if watcher.pollFlag.wakes then
      if watcher.pollFlag.stops then watcher.poll.waiting else watcher.poll.waiting.take 1
    else []
  | _ => []

/-- The accepted records that are given up along a schedule. -/
def givenUpAlong (accepts : Record → Bool) (handle : Record → ω → Bool × ω) :
    List WatcherMove → Watcher ω → List Record
  | [], _ => []
  | move :: rest, watcher =>
    watcher.givenUp move ++ givenUpAlong accepts handle rest (watcher.move accepts handle move)

/-- The call of the handler that returns in a move, with what the handler made of its record. -/
def returned (handle : Record → ω → Bool × ω) (watcher : Watcher ω) :
    WatcherMove → List HandlerCall
  | .complete => watcher.task.inHand.map fun record => ⟨record, (handle record watcher.handler).1⟩
  | _ => []

/-- The calls of the handler that return along a schedule. -/
def returnedAlong (accepts : Record → Bool) (handle : Record → ω → Bool × ω) :
    List WatcherMove → Watcher ω → List HandlerCall
  | [], _ => []
  | move :: rest, watcher =>
    watcher.returned handle move ++ returnedAlong accepts handle rest (watcher.move accepts handle move)

end Watcher

end EventCorrelation
