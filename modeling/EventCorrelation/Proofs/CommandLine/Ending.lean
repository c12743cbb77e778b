import EventCorrelation.Proofs.CommandLine.Prefix

/-!
# How a watch ends

Every move of a watch brings its end nearer, and as long as it is not through there is a move to
make, unless the source has fallen silent and only an interrupt is left. The watch that keeps up with
its source is one of these runs.
-/

namespace EventCorrelation

open Watcher

variable {colored : Bool} {format : OutputFormat} {filter : RecordFilter}
  {watcher next : Watcher (List String)} {move : WatchMove}

/-- No fewer than the moves that are left in a watch. -/
def Watcher.effort (watcher : Watcher (List String)) : Nat :=
  watcher.remaining + watcher.poll.isRunning.toNat + (!watcher.taskFlag.isSet).toNat

theorem WatchStep.effort_lt (step : WatchStep colored format filter watcher move next) :
    next.effort < watcher.effort := by
  cases step with
  | idle phase unread => simp [effort, remaining, phase, PollPhase.isRunning]
  | asked fetch rest phase unread =>
    simp only [effort, remaining, phase, unread, PollPhase.isRunning, List.map_cons, List.foldr_cons]
    omega
  | failed fetch cause phase outcome =>
    simp only [effort, remaining, phase, outcome, PollPhase.isRunning, Bool.toNat_false,
      Bool.toNat_true]
    omega
  | fetched fetch records phase outcome =>
    have fewer : (records.filter filter.accepts).length ≤ records.length := List.length_filter_le ..
    simp only [effort, remaining, phase, outcome, PollPhase.isRunning]
    omega
  | batched phase => simp [effort, remaining, phase, PollPhase.isRunning]
  | put record rest phase room =>
    simp only [effort, remaining, phase, PollPhase.isRunning, List.length_cons, List.length_append,
      List.length_nil]
    omega
  | taken record rest waits queue =>
    simp only [effort, remaining, waits, queue, List.length_cons]
    omega
  | printed record works =>
    simp only [effort, remaining, works]
    omega
  | stopped result ended raised waits =>
    simp only [effort, remaining, waits, raised, ended, List.length_nil, ShutdownFlag.seen]
    omega
  | interrupted running =>
    rw [effort, effort, running]
    simp only [remaining, PollPhase.isRunning, Bool.toNat_false, Bool.toNat_true]
    omega
  | told result ended lowered alive =>
    simp [effort, remaining, lowered, ended]

theorem RecordFilter.length_add_effort_le {schedule : List WatchMove} (onWatch : OnWatch watcher)
    (moved : filter.moveAll? colored format schedule watcher = some next) :
    schedule.length + next.effort ≤ watcher.effort := by
  induction schedule generalizing watcher with
  | nil =>
    cases moved
    exact Nat.le_of_eq (Nat.zero_add _)
  | cons move rest ih =>
    rw [moveAll?_cons, Option.bind_eq_some_iff] at moved
    obtain ⟨between, movedFirst, movedRest⟩ := moved
    have step := watchStep_of_move onWatch movedFirst
    have nearer := step.effort_lt
    have restLe := ih (step.onWatch onWatch) movedRest
    rw [List.length_cons]
    omega

/-- The watch can go on without an interrupt. -/
def MovesOn (colored : Bool) (format : OutputFormat) (filter : RecordFilter)
    (watcher : Watcher (List String)) : Prop :=
  ∃ move, move ≠ .interrupt ∧ (filter.move? colored format watcher move).isSome = true

theorem movesOn_of_inHand {record : Record} (works : watcher.task = .working record) :
    MovesOn colored format filter watcher :=
  ⟨.complete, by decide, by simp [RecordFilter.move?, complete?, works]⟩

/-- A queue with a record in it is drained, so the poll loop finds room in the end. -/
theorem movesOn_of_queued {record : Record} {rest : List Record}
    (alive : watcher.task.isAlive = true) (queue : watcher.queue = record :: rest) :
    MovesOn colored format filter watcher := by
  cases task : watcher.task with
  | waiting => exact ⟨.take, by decide, by simp [RecordFilter.move?, take?, task, queue]⟩
  | working inHand => exact movesOn_of_inHand task
  | notStarted | stopped =>
    rw [task] at alive
    cases alive

theorem movesOn_of_polling (running : watcher.poll.isRunning = true)
    (alive : watcher.task.isAlive = true) (busy : watcher.poll ≠ .idling) :
    MovesOn colored format filter watcher := by
  cases phase : watcher.poll with
  | deciding | fetching fetch => exact ⟨.poll, by decide, by simp [RecordFilter.move?, poll?, phase]⟩
  | queueing records =>
    cases records with
    | nil => exact ⟨.poll, by decide, by simp [RecordFilter.move?, poll?, phase]⟩
    | cons record rest =>
      cases queue : watcher.queue with
      | cons first others => exact movesOn_of_queued alive queue
      | nil =>
        refine ⟨.poll, by decide, ?_⟩
        simp only [RecordFilter.move?, poll?, phase, put?, queue]
        split <;> rfl
  | idling => exact absurd phase busy
  | outside | ended =>
    rw [phase] at running
    cases running

/-- A watch never gets stuck, but it may wait for an interrupt. -/
theorem Watcher.OnWatch.movesOn (onWatch : OnWatch watcher) (unfinished : watcher.outcome? = none)
    (busy : watcher.poll ≠ .idling) : MovesOn colored format filter watcher := by
  cases onWatch.stage with
  | polling running lowered alive => exact movesOn_of_polling running alive busy
  | finished result ended lowered alive =>
    refine ⟨.tell, by decide, ?_⟩
    simp [RecordFilter.move?, ended, lowered, PollPhase.isRunning]
  | told result ended raised alive =>
    cases task : watcher.task with
    | working record => exact movesOn_of_inHand task
    | waiting => exact ⟨.notice, by decide, by simp [RecordFilter.move?, noticeTask?, task, raised]⟩
    | notStarted | stopped =>
      rw [task] at alive
      cases alive
  | through result ended seen stopped =>
    rw [outcome?, ended, stopped] at unfinished
    cases unfinished

namespace WatchTimeline

variable {timeline later : WatchTimeline (List String)}

theorem watcher_pollTo (timeline : WatchTimeline (List String)) (watcher : Watcher (List String)) :
    (timeline.pollTo watcher).watcher = watcher := by
  unfold pollTo
  split <;> rfl

/-- A step in time is a move of the watch. -/
theorem exists_move_of_step (quiet : timeline.watcher.pollFlag = .lowered)
    (stepped : timeline.step? 0 filter.accepts (Record.printTo colored format) = some later) :
    ∃ move, move ≠ .tell ∧
      filter.move? colored format timeline.watcher move = some later.watcher := by
  have asleep : timeline.watcher.noticePoll? = none := by
    rw [noticePoll?, quiet]
    rfl
  rw [step?, asleep, Option.map_none, Option.none_or, Option.or_eq_some_iff,
    Option.or_eq_some_iff] at stepped
  rcases stepped with idle | ⟨-, completed | ⟨-, polled⟩⟩
  · unfold idleTask? at idle
    split at idle
    · next watcher noticed =>
      cases idle
      exact ⟨.notice, by decide, noticed⟩
    · obtain ⟨watcher, taken, rfl⟩ := Option.map_eq_some_iff.mp idle
      exact ⟨.take, by decide, taken⟩
  · unfold completeNow? at completed
    split at completed
    · unfold completeTask? at completed
      split at completed
      · obtain ⟨watcher, returned, rfl⟩ := Option.map_eq_some_iff.mp completed
        exact ⟨.complete, by decide, returned⟩
      · cases completed
    · cases completed
  · unfold pollNow? at polled
    split at polled
    · obtain ⟨watcher, advanced, rfl⟩ := Option.map_eq_some_iff.mp polled
      refine ⟨.poll, by decide, ?_⟩
      rw [watcher_pollTo]
      exact advanced
    · cases polled

/-- Nothing happens any more, however long one waits. -/
def AtRest (colored : Bool) (format : OutputFormat) (filter : RecordFilter)
    (timeline : WatchTimeline (List String)) : Prop :=
  timeline.step? 0 filter.accepts (Record.printTo colored format) = none ∧
    timeline.nextTime? = none

/-- When the next time has come, there is a step to take. -/
theorem step?_of_nextTime {time : Nat} (soon : timeline.nextTime? = some time) :
    ({ timeline with now := time }.step? 0 filter.accepts
      (Record.printTo colored format)).isSome = true := by
  have member := List.min?_mem soon
  rw [List.mem_append] at member
  rw [step?, Option.isSome_or, Option.isSome_or, Option.isSome_or, Bool.or_eq_true, Bool.or_eq_true,
    Bool.or_eq_true]
  right; right
  rcases member with fetching | working
  · right
    split at fetching
    · next fetch phase =>
      obtain rfl := List.mem_singleton.mp fetching
      simp [pollNow?, pollTime?, poll?, phase]
    · cases fetching
  · left
    split at working
    · next record phase =>
      obtain rfl := List.mem_singleton.mp working
      simp [completeNow?, completeTask?, complete?, phase]
    · cases working

/-- The flag of the handler task stays as it is until somebody writes it. -/
theorem lowered_of_step (lowered : watcher.taskFlag = .lowered) (untold : move ≠ .tell)
    (step : WatchStep colored format filter watcher move next) : next.taskFlag = .lowered := by
  cases step with
  | stopped _ _ raised => cases lowered.symm.trans raised
  | told => exact absurd rfl untold
  | idle | asked | failed | fetched | batched | put | taken | printed | interrupted => exact lowered

/-- With enough steps everything comes to rest, by moves of the watch. -/
theorem exists_schedule_of_pass {fuel : Nat} (onWatch : OnWatch timeline.watcher)
    (lowered : timeline.watcher.taskFlag = .lowered)
    (enough : 2 * timeline.watcher.effort < fuel ∨ 2 * timeline.watcher.effort ≤ fuel ∧
      (timeline.step? 0 filter.accepts (Record.printTo colored format)).isSome = true) :
    let last := timeline.pass 0 filter.accepts (Record.printTo colored format) none fuel
    last.AtRest colored format filter ∧ last.watcher.taskFlag = .lowered ∧
      ∃ schedule, filter.moveAll? colored format schedule timeline.watcher = some last.watcher := by
  induction fuel generalizing timeline with
  | zero =>
    rcases enough with impossible | ⟨noEffort, stepped⟩
    · omega
    · obtain ⟨later, stepped⟩ := Option.isSome_iff_exists.mp stepped
      obtain ⟨move, -, moved⟩ := exists_move_of_step onWatch.quiet stepped
      have nearer := (watchStep_of_move onWatch moved).effort_lt
      omega
  | succ fuel ih =>
    rw [pass]
    cases stepped : timeline.step? 0 filter.accepts (Record.printTo colored format) with
    | some later =>
      obtain ⟨move, untold, moved⟩ := exists_move_of_step onWatch.quiet stepped
      have step := watchStep_of_move onWatch moved
      have nearer := step.effort_lt
      have enoughLater : 2 * later.watcher.effort < fuel := by omega
      obtain ⟨atRest, loweredLast, schedule, movedRest⟩ :=
        ih (step.onWatch onWatch) (lowered_of_step lowered untold step) (.inl enoughLater)
      refine ⟨atRest, loweredLast, move :: schedule, ?_⟩
      rw [RecordFilter.moveAll?_cons, moved]
      exact movedRest
    | none =>
      cases soon : timeline.nextTime? with
      | none => exact ⟨⟨stepped, soon⟩, lowered, [], rfl⟩
      | some time =>
        -- A move of the clock brings no end nearer, but it is followed by a step that does.
        have ample : 2 * timeline.watcher.effort < fuel + 1 := by
          rcases enough with ample | ⟨-, goesOn⟩
          · exact ample
          · rw [stepped] at goesOn
            cases goesOn
        exact @ih { timeline with now := time } onWatch lowered
          (.inr ⟨Nat.le_of_lt_succ ample, step?_of_nextTime soon⟩)

theorem exists_schedule_of_advance (colored : Bool) (format : OutputFormat) (filter : RecordFilter)
    (onWatch : OnWatch timeline.watcher) (lowered : timeline.watcher.taskFlag = .lowered) :
    let last := timeline.advance 0 filter.accepts (Record.printTo colored format) none
    last.AtRest colored format filter ∧ last.watcher.taskFlag = .lowered ∧
      ∃ schedule, filter.moveAll? colored format schedule timeline.watcher = some last.watcher := by
  have enough : 2 * timeline.watcher.effort < 2 * (timeline.watcher.remaining + 4) := by
    have polling := Bool.toNat_le timeline.watcher.poll.isRunning
    have telling := Bool.toNat_le (!timeline.watcher.taskFlag.isSet)
    rw [effort]
    omega
  exact exists_schedule_of_pass onWatch lowered (.inl enough)

theorem AtRest.task_eq (atRest : timeline.AtRest colored format filter)
    (onWatch : OnWatch timeline.watcher) (lowered : timeline.watcher.taskFlag = .lowered) :
    timeline.watcher.task = .waiting := by
  have noTime := atRest.2
  rw [nextTime?, List.min?_eq_none_iff, List.append_eq_nil_iff] at noTime
  have alive := onWatch.stage.alive_of_lowered lowered
  cases task : timeline.watcher.task with
  | waiting => rfl
  | working record =>
    rw [task] at noTime
    cases noTime.2
  | notStarted | stopped =>
    rw [task] at alive
    cases alive

theorem AtRest.queue_eq (atRest : timeline.AtRest colored format filter)
    (waits : timeline.watcher.task = .waiting) (lowered : timeline.watcher.taskFlag = .lowered) :
    timeline.watcher.queue = [] := by
  have noStep := atRest.1
  rw [step?, Option.or_eq_none_iff] at noStep
  cases queue : timeline.watcher.queue with
  | nil => rfl
  | cons record rest => simp [idleTask?, noticeTask?, take?, waits, lowered, queue] at noStep

/-- At rest the poll loop is over or waits for an interrupt: there is room in the queue, so it does
not wait for that. -/
theorem AtRest.through (atRest : timeline.AtRest colored format filter)
    (onWatch : OnWatch timeline.watcher) (lowered : timeline.watcher.taskFlag = .lowered) :
    timeline.watcher.poll = .idling ∨ ∃ result, timeline.watcher.poll = .ended result := by
  have waits := atRest.task_eq onWatch lowered
  have queue := atRest.queue_eq waits lowered
  obtain ⟨noStep, noTime⟩ := atRest
  simp only [step?, Option.or_eq_none_iff] at noStep
  have notPolled := noStep.2.2.2
  rw [nextTime?, List.min?_eq_none_iff, List.append_eq_nil_iff] at noTime
  cases phase : timeline.watcher.poll with
  | idling => exact .inl rfl
  | ended result => exact .inr ⟨result, rfl⟩
  | fetching fetch =>
    rw [phase] at noTime
    cases noTime.1
  | deciding => simp [pollNow?, pollTime?, poll?, phase] at notPolled
  | queueing records =>
    cases records <;>
      simp [pollNow?, pollTime?, poll?, put?, isAbandoned, phase, queue, waits, capacity] at notPolled
  | outside => exact absurd phase onWatch.stage.started

theorem AtRest.pass_eq (atRest : timeline.AtRest colored format filter) (fuel : Nat) :
    timeline.pass 0 filter.accepts (Record.printTo colored format) none fuel = timeline := by
  cases fuel with
  | zero => rfl
  | succ fuel => rw [pass, atRest.1, atRest.2]

theorem atRest_of_stopped (stopped : timeline.watcher.task = .stopped)
    (quiet : timeline.watcher.pollFlag = .lowered)
    (through : timeline.watcher.poll = .idling ∨ ∃ result, timeline.watcher.poll = .ended result) :
    timeline.AtRest colored format filter := by
  rcases through with idles | ⟨result, ended⟩
  · simp [AtRest, step?, idleTask?, noticeTask?, take?, noticePoll?, completeNow?, completeTask?,
      pollNow?, pollTime?, nextTime?, stopped, quiet, idles]
  · simp [AtRest, step?, idleTask?, noticeTask?, take?, noticePoll?, completeNow?, completeTask?,
      pollNow?, pollTime?, nextTime?, stopped, quiet, ended]

/-- The handler task stops as soon as it is told to, if nothing else is left to do. -/
theorem AtRest.advance_told (atRest : timeline.AtRest colored format filter)
    (onWatch : OnWatch timeline.watcher) (lowered : timeline.watcher.taskFlag = .lowered) :
    ((timeline.perform .stopTask).advance 0 filter.accepts (Record.printTo colored format)
      none).watcher =
    { timeline.watcher with task := .stopped, queue := [], taskFlag := ShutdownFlag.told.seen } := by
  have waits := atRest.task_eq onWatch lowered
  let last : WatchTimeline (List String) := { timeline with
    watcher := { timeline.watcher with
      task := .stopped, queue := [], taskFlag := ShutdownFlag.told.seen } }
  have step : (timeline.perform .stopTask).step? 0 filter.accepts (Record.printTo colored format) =
      some last := by
    simp [perform, step?, idleTask?, noticeTask?, waits, lowered, last]
  have lastAtRest : last.AtRest colored format filter :=
    atRest_of_stopped rfl onWatch.quiet (atRest.through onWatch lowered)
  rw [advance, Nat.mul_add, pass, step]
  exact congrArg (·.watcher) (lastAtRest.pass_eq _)

end WatchTimeline

namespace RecordFilter

theorem moveAll?_tell {result : Except BusFault Unit} (ended : watcher.poll = .ended result)
    (lowered : watcher.taskFlag = .lowered) (waits : watcher.task = .waiting) :
    filter.moveAll? colored format [.tell, .notice] watcher =
      some { watcher with task := .stopped, queue := [], taskFlag := ShutdownFlag.told.seen } := by
  simp [moveAll?, move?, noticeTask?, ended, lowered, waits, PollPhase.isRunning]

theorem exists_schedule_of_rest {result : Except BusFault Unit}
    (lowered : watcher.taskFlag = .lowered) (waits : watcher.task = .waiting)
    (through : watcher.poll = .idling ∧ result = .ok () ∨ watcher.poll = .ended result) :
    ∃ schedule last, filter.moveAll? colored format schedule watcher = some last ∧
      last.outcome? = some ⟨watcher.handler, result⟩ := by
  rcases through with ⟨idles, rfl⟩ | ended
  · let last : Watcher (List String) := { watcher with
      poll := .ended (.ok ()), task := .stopped, queue := [], taskFlag := ShutdownFlag.told.seen }
    refine ⟨[.interrupt, .tell, .notice], last, ?_, rfl⟩
    rw [moveAll?_cons, move?, idles]
    exact moveAll?_tell rfl lowered waits
  · refine ⟨[.tell, .notice], _, moveAll?_tell ended lowered waits, ?_⟩
    rw [outcome?, ended]

/-- The watch that keeps up with its source is one of its runs. -/
theorem exists_schedule_watch (colored : Bool) (format : OutputFormat) (filter : RecordFilter)
    (script : List Fetch) :
    ∃ schedule last, filter.moveAll? colored format schedule (tailing script) = some last ∧
      last.outcome? = some (filter.watch colored format script) := by
  let begun := WatchTimeline.initial (tailing script)
  let settled := begun.advance 0 filter.accepts (Record.printTo colored format) none
  have begunOnWatch : OnWatch begun.watcher := onWatch_tailing script
  obtain ⟨atRest, lowered, schedule, moved⟩ :=
    WatchTimeline.exists_schedule_of_advance colored format filter begunOnWatch rfl
  have onWatch : OnWatch settled.watcher := (passage_moveAll? begunOnWatch moved).onWatch
  have told := atRest.advance_told onWatch lowered
  have waits := atRest.task_eq onWatch lowered
  have outcome : filter.watch colored format script =
      ⟨settled.watcher.handler, settled.watcher.result?.getD (.ok ())⟩ := by
    have last := congrArg (fun last : Watcher (List String) =>
      WatchOutcome.mk last.handler (last.result?.getD (.ok ()))) told
    exact last
  have ends : ∃ ending last, filter.moveAll? colored format ending settled.watcher = some last ∧
      last.outcome? = some (filter.watch colored format script) := by
    rw [outcome]
    rcases atRest.through onWatch lowered with idles | ⟨result, ended⟩
    · rw [result?, idles]
      exact exists_schedule_of_rest lowered waits (.inl ⟨idles, rfl⟩)
    · rw [result?, ended]
      exact exists_schedule_of_rest lowered waits (.inr ended)
  obtain ⟨ending, last, movedLast, outcome⟩ := ends
  refine ⟨schedule ++ ending, last, ?_, outcome⟩
  rw [moveAll?_append]
  exact Option.bind_eq_some_iff.mpr ⟨_, moved, movedLast⟩

theorem tellsOf_ofFetch (cause : BusFault) : cause.TellsOf cause.ofFetch := by
  unfold BusFault.ofFetch
  split
  · next reason => exact ⟨reason, rfl, .inl rfl⟩
  · next differs => exact ⟨cause.message, rfl, .inr ⟨differs, rfl⟩⟩

theorem pending_tailing (script : List Fetch) (accepts : Record → Bool) :
    (tailing script).pending accepts = (Fetch.offered script).filter accepts :=
  rfl

theorem fate?_tailing (script : List Fetch) :
    (tailing script).fate? = (Fetch.failure? script).map fun cause => .error cause.ofFetch :=
  rfl

theorem through_of_outcome {outcome : WatchOutcome} (through : watcher.outcome? = some outcome) :
    watcher.poll = .ended outcome.result ∧ watcher.task = .stopped ∧
      outcome.lines = watcher.handler := by
  unfold outcome? at through
  split at through
  · next result ended stopped =>
    cases through
    exact ⟨ended, stopped, rfl⟩
  · cases through

/-- Whatever the order of moves: a watch makes a limited number of them, and as long as it is not
through there is one to make, unless the source has fallen silent and only an interrupt is left. The
lines are those of a prefix of the accepted records that the source offers before it fails. A watch
that was not interrupted fails with the fault of its source, and has left no more of these records
unprinted than the queue holds. The watch that keeps up with its source is such a run. -/
theorem prints_prefix_and_tells_failure (colored : Bool) (format : OutputFormat)
    (filter : RecordFilter) (script : List Fetch) :
    (∀ schedule watcher, filter.moveAll? colored format schedule (tailing script) = some watcher →
      schedule.length ≤ (tailing script).remaining + 2 ∧
      (watcher.outcome? = none →
        (∃ move, move ≠ .interrupt ∧
          (filter.move? colored format watcher move).isSome = true) ∨
        watcher.poll = .idling ∧ Fetch.failure? script = none) ∧
      ∃ printed unprinted,
        (Fetch.offered script).filter filter.accepts = printed ++ unprinted ∧
        watcher.handler = printed.map (·.render colored format) ∧
        ∀ outcome, watcher.outcome? = some outcome →
          outcome.lines = watcher.handler ∧
          (.interrupt ∈ schedule → outcome.result = .ok ()) ∧
          (.interrupt ∉ schedule → unprinted.length ≤ capacity ∧
            ∃ cause fault, Fetch.failure? script = some cause ∧
              outcome.result = .error fault ∧ cause.TellsOf fault)) ∧
    ∃ schedule watcher, filter.moveAll? colored format schedule (tailing script) = some watcher ∧
      watcher.outcome? = some (filter.watch colored format script) := by
  refine ⟨fun schedule watcher moved => ?_, exists_schedule_watch colored format filter script⟩
  have begun := onWatch_tailing script
  have passage := passage_moveAll? begun moved
  obtain ⟨printed, dropped, pending, handler, few⟩ := passage.records
  rw [pending_tailing, List.append_assoc] at pending
  refine ⟨?_, fun unfinished => ?_, printed, watcher.pending filter.accepts ++ dropped, pending,
    handler, fun outcome through => ?_⟩
  · exact Nat.le_trans (Nat.le_add_right ..) (length_add_effort_le begun moved)
  · by_cases idles : watcher.poll = .idling
    · refine .inr ⟨idles, ?_⟩
      have fate := passage.fate
      rw [fate?_of_idling idles, fate?_tailing] at fate
      split at fate
      · cases fate
      · exact Option.map_eq_none_iff.mp fate.symm
    · exact .inl (passage.onWatch.movesOn unfinished idles)
  · obtain ⟨ended, stopped, lines⟩ := through_of_outcome through
    have fate := passage.fate
    rw [fate?_of_ended ended, fate?_tailing] at fate
    refine ⟨lines, fun interrupted => ?_, fun goesOn => ⟨?_, ?_⟩⟩
    · rw [if_pos interrupted] at fate
      exact Option.some.inj fate
    · rw [passage.onWatch.pending_of_stopped stopped, List.nil_append]
      exact Nat.le_trans (Nat.le_add_right ..) (few goesOn)
    · rw [if_neg goesOn] at fate
      obtain ⟨cause, failure, result⟩ := Option.map_eq_some_iff.mp fate.symm
      exact ⟨cause, cause.ofFetch, failure, result.symm, tellsOf_ofFetch cause⟩

def everything : RecordFilter := ⟨none, none, false⟩

def newsRecord (offset : Int) : Record := ⟨"news", 0, offset, none, none, none⟩

/-- Two records before the source fails. -/
def newsScript : List Fetch := [⟨0, .ok [newsRecord 0, newsRecord 1]⟩, ⟨0, .error .closed⟩]

/-- The handler task has printed one record when it is told to stop. -/
def slowSchedule : List WatchMove :=
  [.poll, .poll, .poll, .take, .poll, .poll, .poll, .poll, .tell, .complete, .notice]

theorem slow_handler_leaves_record :
    ∃ watcher,
      everything.moveAll? false .text slowSchedule (tailing newsScript) = some watcher ∧
        watcher.outcome? = some ⟨[(newsRecord 0).render false .text],
          .error (.fetching "bus client is closed")⟩ ∧
        ∃ printed unprinted, [newsRecord 0, newsRecord 1] = printed ++ unprinted ∧
          watcher.handler = printed.map (·.render false .text) ∧ unprinted.length ≤ capacity := by
  obtain ⟨everyRun, -⟩ := prints_prefix_and_tells_failure false .text everything newsScript
  have run : (everything.moveAll? false .text slowSchedule (tailing newsScript)).bind
      (·.outcome?) = some ⟨[(newsRecord 0).render false .text],
        .error (.fetching "bus client is closed")⟩ := rfl
  obtain ⟨watcher, moved, outcome⟩ := Option.bind_eq_some_iff.mp run
  obtain ⟨-, -, printed, unprinted, whole, lines, atEnd⟩ := everyRun slowSchedule watcher moved
  have few := ((atEnd _ outcome).2.2 (by decide)).1
  exact ⟨watcher, moved, outcome, printed, unprinted, whole, lines, few⟩

end RecordFilter

end EventCorrelation
