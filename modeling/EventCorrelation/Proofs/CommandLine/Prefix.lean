import EventCorrelation.CommandLine.WatchRun
import EventCorrelation.Proofs.Watcher.Moves

/-!
# What a watch prints

The records that a watch has accepted and not printed yet stand in one line: the one in hand, those
in the queue, those that wait for room in it, and those that the source has yet to offer. Printing
takes from the front of this line. Only two moves drop records, and both drop them from its back: an
interrupt all that has not reached the queue, and the end of the handler task all that is in it. So
whatever the order of moves, what was printed is a prefix of what the source offered.
-/

namespace EventCorrelation

/-- The handler task has begun and has not stopped. -/
def TaskPhase.isAlive : TaskPhase → Bool
  | .waiting => true
  | .working _ => true
  | _ => false

namespace ShutdownFlag

/-- A flag that was raised and that the task has not looked at. -/
def told : ShutdownFlag := lowered.write true

@[simp]
theorem isSet_lowered : lowered.isSet = false := rfl

@[simp]
theorem wakes_lowered : lowered.wakes = false := rfl

@[simp]
theorem write_lowered : lowered.write true = told := rfl

@[simp]
theorem isSet_told : told.isSet = true := rfl

@[simp]
theorem wakes_told : told.wakes = true := rfl

@[simp]
theorem stops_told : told.stops = true := rfl

end ShutdownFlag

namespace Watcher

variable {ω : Type}

/-- How far a watch has come. -/
inductive Stage (watcher : Watcher ω) : Prop where
  | polling (running : watcher.poll.isRunning = true) (lowered : watcher.taskFlag = .lowered)
      (alive : watcher.task.isAlive = true)
  | finished (result : Except BusFault Unit) (ended : watcher.poll = .ended result)
      (lowered : watcher.taskFlag = .lowered) (alive : watcher.task.isAlive = true)
  | told (result : Except BusFault Unit) (ended : watcher.poll = .ended result)
      (raised : watcher.taskFlag = .told) (alive : watcher.task.isAlive = true)
  | through (result : Except BusFault Unit) (ended : watcher.poll = .ended result)
      (seen : watcher.taskFlag = ShutdownFlag.told.seen) (stopped : watcher.task = .stopped)
      (empty : watcher.queue = [])

/-- What holds of the watcher of a watch between any two moves. -/
structure OnWatch (watcher : Watcher ω) : Prop where
  quiet : watcher.pollFlag = .lowered
  room : watcher.queue.length ≤ capacity
  stage : Stage watcher

theorem onWatch_tailing (script : List Fetch) : OnWatch (tailing script) :=
  ⟨rfl, Nat.zero_le _, .polling rfl rfl rfl⟩

variable {watcher next : Watcher ω}

theorem Stage.alive_of_running (stage : Stage watcher) (running : watcher.poll.isRunning = true) :
    watcher.taskFlag = .lowered ∧ watcher.task.isAlive = true := by
  cases stage with
  | polling _ lowered alive => exact ⟨lowered, alive⟩
  | finished result ended | told result ended | through result ended =>
    rw [ended] at running
    cases running

theorem Stage.alive_of_lowered (stage : Stage watcher) (lowered : watcher.taskFlag = .lowered) :
    watcher.task.isAlive = true := by
  cases stage with
  | polling _ _ alive | finished _ _ _ alive | told _ _ _ alive => exact alive
  | through _ _ seen => cases lowered.symm.trans seen

theorem Stage.started (stage : Stage watcher) : watcher.poll ≠ .outside := by
  intro outside
  cases stage with
  | polling running =>
    rw [outside] at running
    cases running
  | finished _ ended | told _ ended | through _ ended => cases outside.symm.trans ended

/-- The handler task goes on, whatever the stage. -/
theorem Stage.goesOn (stage : Stage watcher) (alive : watcher.task.isAlive = true)
    (poll : next.poll = watcher.poll) (taskFlag : next.taskFlag = watcher.taskFlag)
    (aliveNext : next.task.isAlive = true) : Stage next := by
  cases stage with
  | polling running lowered =>
    exact .polling (by rw [poll, running]) (by rw [taskFlag, lowered]) aliveNext
  | finished result ended lowered =>
    exact .finished result (by rw [poll, ended]) (by rw [taskFlag, lowered]) aliveNext
  | told result ended raised =>
    exact .told result (by rw [poll, ended]) (by rw [taskFlag, raised]) aliveNext
  | through result ended seen stopped =>
    rw [stopped] at alive
    cases alive

end Watcher

open Watcher

variable {colored : Bool} {format : OutputFormat} {filter : RecordFilter}
  {watcher next : Watcher (List String)} {move : WatchMove}

/-- What can happen in a watch, with all that it changes. -/
inductive WatchStep (colored : Bool) (format : OutputFormat) (filter : RecordFilter)
    (watcher : Watcher (List String)) : WatchMove → Watcher (List String) → Prop where
  | idle (phase : watcher.poll = .deciding) (unread : watcher.script = []) :
    WatchStep colored format filter watcher .poll { watcher with poll := .idling }
  | asked (fetch : Fetch) (rest : List Fetch) (phase : watcher.poll = .deciding)
      (unread : watcher.script = fetch :: rest) :
    WatchStep colored format filter watcher .poll
      { watcher with poll := .fetching fetch, script := rest }
  | failed (fetch : Fetch) (cause : BusFault) (phase : watcher.poll = .fetching fetch)
      (outcome : fetch.outcome = .error cause) :
    WatchStep colored format filter watcher .poll
      { watcher with poll := .ended (.error cause.ofFetch) }
  | fetched (fetch : Fetch) (records : List Record) (phase : watcher.poll = .fetching fetch)
      (outcome : fetch.outcome = .ok records) :
    WatchStep colored format filter watcher .poll
      { watcher with
        fetched := watcher.fetched ++ records, poll := .queueing (records.filter filter.accepts) }
  | batched (phase : watcher.poll = .queueing []) :
    WatchStep colored format filter watcher .poll { watcher with poll := .deciding }
  | put (record : Record) (rest : List Record) (phase : watcher.poll = .queueing (record :: rest))
      (room : watcher.queue.length < capacity) :
    WatchStep colored format filter watcher .poll
      { watcher with
        queue := watcher.queue ++ [record], queued := watcher.queued ++ [record]
        poll := .queueing rest }
  | taken (record : Record) (rest : List Record) (waits : watcher.task = .waiting)
      (queue : watcher.queue = record :: rest) :
    WatchStep colored format filter watcher .take
      { watcher with
        queue := rest, task := .working record, handled := watcher.handled ++ [record] }
  | printed (record : Record) (works : watcher.task = .working record) :
    WatchStep colored format filter watcher .complete
      { watcher with
        handler := watcher.handler ++ [record.render colored format]
        handledCount := watcher.handledCount + 1, task := .waiting }
  | stopped (result : Except BusFault Unit) (ended : watcher.poll = .ended result)
      (raised : watcher.taskFlag = .told) (waits : watcher.task = .waiting) :
    WatchStep colored format filter watcher .notice
      { watcher with taskFlag := ShutdownFlag.told.seen, task := .stopped, queue := [] }
  | interrupted (running : watcher.poll.isRunning = true) :
    WatchStep colored format filter watcher .interrupt { watcher with poll := .ended (.ok ()) }
  | told (result : Except BusFault Unit) (ended : watcher.poll = .ended result)
      (lowered : watcher.taskFlag = .lowered) (alive : watcher.task.isAlive = true) :
    WatchStep colored format filter watcher .tell { watcher with taskFlag := .told }

theorem watchStep_poll (onWatch : OnWatch watcher)
    (polled : watcher.poll? filter.accepts = some next) :
    WatchStep colored format filter watcher .poll next := by
  cases pollStep_of_poll polled with
  | stopped phase raised =>
    rw [onWatch.quiet] at raised
    cases raised
  | idle phase unread => exact .idle phase unread
  | asked fetch rest phase unread => exact .asked fetch rest phase unread
  | failed fetch cause phase outcome => exact .failed fetch cause phase outcome
  | fetched fetch records phase outcome => exact .fetched fetch records phase outcome
  | through phase => exact .batched phase
  | abandoned record rest phase gone =>
    have stopped : watcher.task = .stopped := by simpa [isAbandoned] using gone
    have alive := (onWatch.stage.alive_of_running (by rw [phase]; rfl)).2
    rw [stopped] at alive
    cases alive
  | put record rest phase attended room => exact .put record rest phase room

theorem watchStep_notice (onWatch : OnWatch watcher) (noticed : watcher.noticeTask? = some next) :
    WatchStep colored format filter watcher .notice next := by
  unfold noticeTask? at noticed
  split at noticed
  · next waits =>
    cases onWatch.stage with
    | polling _ lowered | finished _ _ lowered =>
      rw [lowered] at noticed
      cases noticed
    | told result ended raised =>
      rw [raised] at noticed
      cases noticed
      exact .stopped result ended raised waits
    | through result ended seen stopped => cases stopped.symm.trans waits
  · cases noticed

/-- Nothing else can happen in a watch. -/
theorem watchStep_of_move (onWatch : OnWatch watcher)
    (moved : filter.move? colored format watcher move = some next) :
    WatchStep colored format filter watcher move next := by
  cases move with
  | poll => exact watchStep_poll onWatch moved
  | take =>
    simp only [RecordFilter.move?, take?] at moved
    split at moved
    · next record rest waits queue =>
      cases moved
      exact .taken record rest waits queue
    · cases moved
  | complete =>
    simp only [RecordFilter.move?, complete?] at moved
    split at moved
    · next record works =>
      cases moved
      exact .printed record works
    · cases moved
  | notice => exact watchStep_notice onWatch moved
  | interrupt =>
    simp only [RecordFilter.move?] at moved
    split at moved
    · next running =>
      cases moved
      exact .interrupted running
    · cases moved
  | tell =>
    simp only [RecordFilter.move?] at moved
    split at moved
    · cases moved
    · next calm =>
      cases moved
      rw [Bool.or_eq_true, not_or, Bool.not_eq_true, Bool.not_eq_true] at calm
      cases onWatch.stage with
      | polling running => cases running.symm.trans calm.1
      | finished result ended lowered alive =>
        rw [lowered]
        exact .told result ended lowered alive
      | told _ _ raised | through _ _ raised =>
        rw [raised] at calm
        cases calm.2

theorem WatchStep.onWatch (step : WatchStep colored format filter watcher move next)
    (onWatch : OnWatch watcher) : OnWatch next := by
  obtain ⟨quiet, room, stage⟩ := onWatch
  cases step with
  | idle phase | asked _ _ phase | fetched _ _ phase | batched phase =>
    obtain ⟨lowered, alive⟩ := stage.alive_of_running (by rw [phase]; rfl)
    exact ⟨quiet, room, .polling rfl lowered alive⟩
  | failed _ _ phase =>
    obtain ⟨lowered, alive⟩ := stage.alive_of_running (by rw [phase]; rfl)
    exact ⟨quiet, room, .finished _ rfl lowered alive⟩
  | put record rest phase hasRoom =>
    obtain ⟨lowered, alive⟩ := stage.alive_of_running (by rw [phase]; rfl)
    refine ⟨quiet, ?_, .polling rfl lowered alive⟩
    rw [List.length_append, List.length_singleton]
    omega
  | taken record rest waits queue =>
    refine ⟨quiet, ?_, stage.goesOn (by rw [waits]; rfl) rfl rfl rfl⟩
    rw [queue, List.length_cons] at room
    exact Nat.le_of_succ_le room
  | printed record works => exact ⟨quiet, room, stage.goesOn (by rw [works]; rfl) rfl rfl rfl⟩
  | stopped result ended => exact ⟨quiet, Nat.zero_le _, .through result ended rfl rfl rfl⟩
  | interrupted running =>
    obtain ⟨lowered, alive⟩ := stage.alive_of_running running
    exact ⟨quiet, room, .finished _ rfl lowered alive⟩
  | told result ended _ alive => exact ⟨quiet, room, .told result ended rfl alive⟩

namespace Watcher

/-- What the source has yet to answer to the poll loop. -/
def unread (watcher : Watcher ω) : List Fetch :=
  match watcher.poll with
  | .deciding => watcher.script
  | .queueing _ => watcher.script
  | .fetching fetch => fetch :: watcher.script
  | _ => []

/-- The accepted records that have still to be put into the queue. -/
def coming (accepts : Record → Bool) (watcher : Watcher ω) : List Record :=
  watcher.poll.waiting ++ (Fetch.offered watcher.unread).filter accepts

/-- The accepted records that are neither printed nor dropped. -/
def pending (accepts : Record → Bool) (watcher : Watcher ω) : List Record :=
  watcher.task.inHand ++ watcher.queue ++ watcher.coming accepts

/-- How the poll loop ends unless it is interrupted, if it does. -/
def fate? (watcher : Watcher ω) : Option (Except BusFault Unit) :=
  match watcher.poll with
  | .ended result => some result
  | _ => (Fetch.failure? watcher.unread).map fun cause => .error cause.ofFetch

/-- The records that are printed in a move. -/
@[simp]
def printedBy (watcher : Watcher ω) : WatchMove → List Record
  | .complete => watcher.task.inHand
  | _ => []

/-- The accepted records that are dropped in a move. -/
@[simp]
def droppedBy (accepts : Record → Bool) (watcher : Watcher ω) : WatchMove → List Record
  | .interrupt => watcher.coming accepts
  | .notice => watcher.queue
  | _ => []

/-- How many records may still be dropped if nobody interrupts. -/
def allowance (watcher : Watcher ω) : Nat :=
  match watcher.task with
  | .stopped => 0
  | _ => capacity

theorem fate?_of_idling {watcher : Watcher ω} (idles : watcher.poll = .idling) :
    watcher.fate? = none := by
  simp [fate?, unread, idles]

theorem fate?_of_ended {watcher : Watcher ω} {result : Except BusFault Unit}
    (ended : watcher.poll = .ended result) : watcher.fate? = some result := by
  rw [fate?, ended]

theorem OnWatch.pending_of_stopped {watcher : Watcher ω} (onWatch : OnWatch watcher)
    (stopped : watcher.task = .stopped) (accepts : Record → Bool) :
    watcher.pending accepts = [] := by
  cases onWatch.stage with
  | through result ended _ _ empty =>
    simp [pending, coming, unread, ended, stopped, empty, TaskPhase.inHand, PollPhase.waiting]
  | polling _ _ alive | finished _ _ _ alive | told _ _ _ alive =>
    rw [stopped] at alive
    cases alive

end Watcher

/-- Records are printed from the front of what is pending, and dropped from its back. -/
theorem WatchStep.pending_eq (step : WatchStep colored format filter watcher move next) :
    watcher.pending filter.accepts = watcher.printedBy move ++ next.pending filter.accepts ++
        watcher.droppedBy filter.accepts move ∧
      next.handler =
        watcher.handler ++ (watcher.printedBy move).map (·.render colored format) := by
  cases step with
  | idle phase ahead | asked fetch rest phase ahead =>
    simp [pending, coming, unread, phase, ahead, PollPhase.waiting]
  | failed fetch cause phase outcome | fetched fetch records phase outcome =>
    simp [pending, coming, unread, phase, outcome, PollPhase.waiting]
  | batched phase | put record rest phase =>
    simp [pending, coming, unread, phase, PollPhase.waiting]
  | taken record rest waits queue =>
    simp [pending, coming, unread, waits, queue, TaskPhase.inHand]
  | printed record works => simp [pending, coming, unread, works, TaskPhase.inHand]
  | stopped result ended raised waits =>
    -- The poll loop is over, so nothing stands behind the queue.
    simp [pending, coming, unread, ended, waits, TaskPhase.inHand, PollPhase.waiting]
  | interrupted running => simp [pending, coming, unread, PollPhase.waiting]
  | told result ended => simp [pending, coming, unread, ended]

theorem WatchStep.fate?_eq (step : WatchStep colored format filter watcher move next) :
    next.fate? = if move = .interrupt then some (.ok ()) else watcher.fate? := by
  cases step with
  | idle phase ahead | asked _ _ phase ahead => simp [fate?, unread, phase, ahead]
  | failed _ _ phase outcome | fetched _ _ phase outcome => simp [fate?, unread, phase, outcome]
  | batched phase | put _ _ phase => simp [fate?, unread, phase]
  | taken | printed | stopped | told => simp [fate?, unread]
  | interrupted running => rfl

theorem WatchStep.dropped_le (step : WatchStep colored format filter watcher move next)
    (onWatch : OnWatch watcher) (goesOn : move ≠ .interrupt) :
    (watcher.droppedBy filter.accepts move).length + next.allowance ≤ watcher.allowance := by
  cases step with
  | idle | asked | failed | fetched | batched | put | told => exact Nat.le_of_eq (Nat.zero_add _)
  | taken _ _ waits => simp [allowance, waits]
  | printed _ works => simp [allowance, works]
  | stopped _ _ _ waits => simpa [allowance, waits] using onWatch.room
  | interrupted => exact absurd rfl goesOn

/-- What a schedule makes of a watch. -/
structure Passage (colored : Bool) (format : OutputFormat) (filter : RecordFilter)
    (schedule : List WatchMove) (watcher next : Watcher (List String)) : Prop where
  onWatch : OnWatch next
  fate : next.fate? = if .interrupt ∈ schedule then some (.ok ()) else watcher.fate?
  records : ∃ printed dropped,
    watcher.pending filter.accepts = printed ++ next.pending filter.accepts ++ dropped ∧
      next.handler = watcher.handler ++ printed.map (·.render colored format) ∧
      (.interrupt ∉ schedule → dropped.length + next.allowance ≤ watcher.allowance)

theorem Passage.refl (onWatch : OnWatch watcher) :
    Passage colored format filter [] watcher watcher := by
  refine ⟨onWatch, rfl, [], [], ?_, ?_, fun _ => ?_⟩
  · rw [List.nil_append, List.append_nil]
  · rw [List.map_nil, List.append_nil]
  · exact Nat.le_of_eq (Nat.zero_add _)

theorem Passage.cons {last : Watcher (List String)} {schedule : List WatchMove}
    (step : WatchStep colored format filter watcher move next) (onWatch : OnWatch watcher)
    (passage : Passage colored format filter schedule next last) :
    Passage colored format filter (move :: schedule) watcher last := by
  obtain ⟨pending, handler⟩ := step.pending_eq
  obtain ⟨onWatchLast, fate, printed, dropped, pendingLast, handlerLast, few⟩ := passage
  refine ⟨onWatchLast, ?_, watcher.printedBy move ++ printed,
    dropped ++ watcher.droppedBy filter.accepts move, ?_, ?_, fun goesOn => ?_⟩
  · rw [fate, step.fate?_eq]
    by_cases now : move = .interrupt
    · simp [now]
    · simp [now, Ne.symm now]
  · rw [pending, pendingLast]
    simp only [List.append_assoc]
  · rw [handlerLast, handler, List.map_append, List.append_assoc]
  · rw [List.mem_cons, not_or] at goesOn
    have first := step.dropped_le onWatch (Ne.symm goesOn.1)
    have rest := few goesOn.2
    rw [List.length_append]
    omega

namespace RecordFilter

theorem moveAll?_cons (colored : Bool) (format : OutputFormat) (filter : RecordFilter)
    (move : WatchMove) (schedule : List WatchMove) (watcher : Watcher (List String)) :
    filter.moveAll? colored format (move :: schedule) watcher =
      (filter.move? colored format watcher move).bind (filter.moveAll? colored format schedule) :=
  rfl

theorem moveAll?_append (colored : Bool) (format : OutputFormat) (filter : RecordFilter)
    (first later : List WatchMove) (watcher : Watcher (List String)) :
    filter.moveAll? colored format (first ++ later) watcher =
      (filter.moveAll? colored format first watcher).bind
        (filter.moveAll? colored format later) :=
  List.foldlM_append ..

theorem passage_moveAll? {schedule : List WatchMove} (onWatch : OnWatch watcher)
    (moved : filter.moveAll? colored format schedule watcher = some next) :
    Passage colored format filter schedule watcher next := by
  induction schedule generalizing watcher with
  | nil =>
    cases moved
    exact .refl onWatch
  | cons move rest ih =>
    rw [moveAll?_cons, Option.bind_eq_some_iff] at moved
    obtain ⟨between, movedFirst, movedRest⟩ := moved
    have step := watchStep_of_move onWatch movedFirst
    exact .cons step onWatch (ih (step.onWatch onWatch) movedRest)

end RecordFilter

end EventCorrelation
