import EventCorrelation.CommandLine.Watch
import EventCorrelation.Watcher.Run

/-!
# Runs of a watch

Everything that can happen while topics are watched, in any order: the poll loop and the handler task
take their steps, somebody interrupts the poll loop, and once that is over the handler task is told
to stop. The watch is through when the handler task has stopped.
-/

namespace EventCorrelation

namespace Fetch

/-- The records that a source offers before it fails or falls silent. -/
@[simp]
def offered : List Fetch → List Record
  | [] => []
  | fetch :: rest => match fetch.outcome with
    | .ok records => records ++ offered rest
    | .error _ => []

/-- The first failure of a source. -/
@[simp]
def failure? : List Fetch → Option BusFault
  | [] => none
  | fetch :: rest => match fetch.outcome with
    | .ok _ => failure? rest
    | .error cause => some cause

end Fetch

/-- The fault is one of fetching and carries the text of its cause, or the reason that the cause gives
if that is one of fetching already. -/
def BusFault.TellsOf (cause fault : BusFault) : Prop :=
  ∃ reason, fault = .fetching reason ∧
    (cause = .fetching reason ∨ (∀ own, cause ≠ .fetching own) ∧ reason = cause.message)

/-- What can happen next in a watch. -/
inductive WatchMove where
  | poll
  | take
  | complete
  | notice
  /-- The poll loop is dropped where it stands. -/
  | interrupt
  /-- The handler task is told to stop. -/
  | tell
deriving DecidableEq

namespace Watcher

/-- The watcher of a watch when its poll loop begins. -/
def tailing (script : List Fetch) : Watcher (List String) :=
  (initial script []).start.startTask.2

/-- How a watch went, once it is through. -/
def outcome? (watcher : Watcher (List String)) : Option WatchOutcome :=
  match watcher.poll, watcher.task with
  | .ended result, .stopped => some ⟨watcher.handler, result⟩
  | _, _ => none

end Watcher

namespace RecordFilter

variable (colored : Bool) (format : OutputFormat) (filter : RecordFilter)

/-- The watcher after a move, if that can be made. The handler task is told to stop once, when the
poll loop is over. -/
def move? (watcher : Watcher (List String)) : WatchMove → Option (Watcher (List String))
  | .poll => watcher.poll? filter.accepts
  | .take => watcher.take?
  | .complete => watcher.complete? (Record.printTo colored format)
  | .notice => watcher.noticeTask?
  | .interrupt => if watcher.poll.isRunning then some (watcher.finish (.ok ())) else none
  | .tell =>
    if watcher.poll.isRunning || watcher.taskFlag.isSet then none
    else some { watcher with taskFlag := watcher.taskFlag.write true }

/-- The watcher after the moves of a schedule, if these can be made. -/
def moveAll? (schedule : List WatchMove) (watcher : Watcher (List String)) :
    Option (Watcher (List String)) :=
  schedule.foldlM (filter.move? colored format) watcher

end RecordFilter

end EventCorrelation
