import EventCorrelation.Proofs.Watcher.Moves
import Mathlib.Data.List.Induction

/-!
# What a watcher loses

A record that is accepted ends up in the queue, or is given up, or still waits for its turn: the
accepted records of all batches are dealt out to the queue and to what was given up, in the order in
which they came. Nothing is given up but by an end of the poll loop, or by a write to its flag that
it notices while a record waits for room; such a write costs one record even if it leaves the flag
lowered.
-/

namespace EventCorrelation

/-- The move is one of the handler task. -/
def WatcherMove.isOfTask : WatcherMove → Bool
  | .startTask => true
  | .take => true
  | .complete => true
  | .noticeTask => true
  | _ => false

namespace Watcher

variable {ω : Type} {accepts : Record → Bool} {handle : Record → ω → Bool × ω}
  {watcher next : Watcher ω}

theorem moveAll_append (accepts : Record → Bool) (handle : Record → ω → Bool × ω)
    (first later : List WatcherMove) (watcher : Watcher ω) :
    watcher.moveAll accepts handle (first ++ later) =
      (watcher.moveAll accepts handle first).moveAll accepts handle later :=
  List.foldl_append ..

/-- What can have become of the records of a poll loop by one move, which gives up some of them. -/
inductive Effect (accepts : Record → Bool) (watcher next : Watcher ω) (given : List Record) :
    Prop where
  | fetched (records : List Record)
      (nothing : watcher.poll.waiting = [] ∧ given = [])
      (fetched : next.fetched = watcher.fetched ++ records)
      (waiting : next.poll.waiting = records.filter accepts)
      (queued : next.queued = watcher.queued)
  | put (record : Record)
      (nothing : given = [])
      (fetched : next.fetched = watcher.fetched)
      (waiting : watcher.poll.waiting = record :: next.poll.waiting)
      (queued : next.queued = watcher.queued ++ [record])
  | gaveUp
      (fetched : next.fetched = watcher.fetched)
      (waiting : watcher.poll.waiting = given ++ next.poll.waiting)
      (queued : next.queued = watcher.queued)

/-- A move that leaves the records of the poll loop alone. -/
theorem Effect.aside (fetched : next.fetched = watcher.fetched)
    (waiting : next.poll.waiting = watcher.poll.waiting)
    (queued : next.queued = watcher.queued) : Effect accepts watcher next [] :=
  .gaveUp fetched (by rw [List.nil_append, waiting]) queued

theorem givenUp_of_noneWaits {move : WatcherMove} (noneWaits : watcher.poll.waiting = []) :
    watcher.givenUp move = [] := by
  cases move <;> simp [givenUp, noneWaits]

theorem effect_poll (polled : watcher.poll? accepts = some next) :
    Effect accepts watcher next (watcher.givenUp .poll) := by
  have nothing (noneWaits : watcher.poll.waiting = []) : watcher.givenUp .poll = [] :=
    givenUp_of_noneWaits noneWaits
  cases pollStep_of_poll polled with
  | stopped phase | idle phase | asked fetch rest phase | failed fetch fault phase
  | through phase =>
    rw [nothing (by rw [phase]; rfl)]
    exact .aside rfl (by rw [phase]; rfl) rfl
  | fetched fetch records phase =>
    rw [nothing (by rw [phase]; rfl)]
    exact .fetched records ⟨by rw [phase]; rfl, rfl⟩ rfl rfl rfl
  | abandoned record rest phase gone =>
    refine .gaveUp rfl ?_ rfl
    simp [givenUp, gone, PollPhase.waiting]
  | put record rest phase attended =>
    exact .put record (by simp [givenUp, attended]) rfl (by rw [phase]; rfl) rfl

theorem effect_noticePoll (noticed : watcher.noticePoll? = some next) :
    Effect accepts watcher next (watcher.givenUp .noticePoll) := by
  obtain ⟨wakes, woken⟩ := pollWake_of_notice noticed
  rw [givenUp, if_pos wakes]
  cases woken with
  | stopped stops =>
    rw [if_pos stops]
    exact .gaveUp rfl (List.append_nil _).symm rfl
  | restarted goesOn noneWaits =>
    rw [noneWaits, List.take_nil, ite_self]
    exact .aside rfl noneWaits.symm rfl
  | skipped record rest goesOn phase =>
    rw [goesOn, phase]
    exact .gaveUp rfl (by rw [phase]; rfl) rfl

theorem givenUp_poll_of_none (stuck : watcher.poll? accepts = none) :
    watcher.givenUp .poll = [] := by
  cases phase : watcher.poll with
  | queueing records =>
    cases records with
    | nil => exact givenUp_of_noneWaits (by rw [phase]; rfl)
    | cons record rest =>
      simp only [poll?, phase, put?] at stuck
      split at stuck
      · cases stuck
      · next notAbandoned => simp [givenUp, notAbandoned]
  | outside | deciding | fetching | idling | ended =>
    exact givenUp_of_noneWaits (by rw [phase]; rfl)

theorem givenUp_noticePoll_of_none (stuck : watcher.noticePoll? = none) :
    watcher.givenUp .noticePoll = [] := by
  by_cases wakes : watcher.pollFlag.wakes
  · cases phase : watcher.poll with
    | queueing records =>
      cases records with
      | nil => exact givenUp_of_noneWaits (by rw [phase]; rfl)
      | cons record rest => simp [noticePoll?, phase, wakes] at stuck
    | outside | deciding | fetching | idling | ended =>
      exact givenUp_of_noneWaits (by rw [phase]; rfl)
  · simp [givenUp, wakes]

/-- The poll loop and its records are as before. -/
structure SamePoll (watcher next : Watcher ω) : Prop where
  poll : next.poll = watcher.poll
  pollFlag : next.pollFlag = watcher.pollFlag
  fetched : next.fetched = watcher.fetched
  queued : next.queued = watcher.queued
  script : next.script = watcher.script

theorem SamePoll.refl (watcher : Watcher ω) : SamePoll watcher watcher :=
  ⟨rfl, rfl, rfl, rfl, rfl⟩

theorem Effect.ofSame (same : SamePoll watcher next) : Effect accepts watcher next [] :=
  .aside same.fetched (by rw [same.poll]) same.queued

/-- The handler task leaves the poll loop alone. -/
theorem samePoll_move (accepts : Record → Bool) (handle : Record → ω → Bool × ω)
    (watcher : Watcher ω) {move : WatcherMove} (ofTask : move.isOfTask) :
    SamePoll watcher (watcher.move accepts handle move) := by
  cases move with
  | startTask =>
    simp only [Watcher.move, startTask]
    split <;> exact ⟨rfl, rfl, rfl, rfl, rfl⟩
  | take =>
    simp only [Watcher.move, take?]
    split <;> exact ⟨rfl, rfl, rfl, rfl, rfl⟩
  | complete =>
    simp only [Watcher.move, complete?]
    split <;> exact ⟨rfl, rfl, rfl, rfl, rfl⟩
  | noticeTask =>
    simp only [Watcher.move, noticeTask?]
    split
    · split
      · dsimp only [Option.getD_some]
        split <;> exact ⟨rfl, rfl, rfl, rfl, rfl⟩
      · exact .refl watcher
    · exact .refl watcher
  | start | poll | noticePoll | write | abandon | writeTask | abandonTask => cases ofTask

/-- Every move does one of these things, and gives up what it is said to give up. -/
theorem effect_move (accepts : Record → Bool) (handle : Record → ω → Bool × ω)
    (watcher : Watcher ω) (move : WatcherMove) :
    Effect accepts watcher (watcher.move accepts handle move) (watcher.givenUp move) := by
  have same : Effect accepts watcher watcher [] := .aside rfl rfl rfl
  cases move with
  | start =>
    simp only [Watcher.move]
    split
    · exact same
    · next notRunning =>
      refine .aside rfl ?_ rfl
      cases phase : watcher.poll with
      | outside | ended => rfl
      | deciding | fetching | idling | queueing => simp [phase, PollPhase.isRunning] at notRunning
  | poll =>
    cases polled : watcher.poll? accepts with
    | none => simpa [Watcher.move, polled, givenUp_poll_of_none polled] using same
    | some next => simpa [Watcher.move, polled] using effect_poll polled
  | noticePoll =>
    cases noticed : watcher.noticePoll? with
    | none => simpa [Watcher.move, noticed, givenUp_noticePoll_of_none noticed] using same
    | some next =>
      have effect : Effect accepts watcher next (watcher.givenUp .noticePoll) :=
        effect_noticePoll noticed
      simpa [Watcher.move, noticed] using effect
  | startTask | take | complete | noticeTask =>
    exact .ofSame (samePoll_move accepts handle watcher rfl)
  | write value | abandon | writeTask value | abandonTask => exact .aside rfl rfl rfl

/-- The records that have been accepted, apart from those that wait, are dealt out to the queue and
to what was given up. -/
def Accounted (accepts : Record → Bool) (watcher : Watcher ω) (lost : List Record) : Prop :=
  ∃ settled, watcher.fetched.filter accepts = settled ++ watcher.poll.waiting ∧
    DealtOut settled watcher.queued lost

theorem Accounted.effect {lost given : List Record} (accounted : Accounted accepts watcher lost)
    (effect : Effect accepts watcher next given) : Accounted accepts next (lost ++ given) := by
  obtain ⟨settled, whole, dealt⟩ := accounted
  cases effect with
  | fetched records nothing fetched waiting queued =>
    -- A batch is fetched only when no record waits, so it stands behind all that is settled.
    obtain ⟨noneWaits, rfl⟩ := nothing
    rw [noneWaits, List.append_nil] at whole
    refine ⟨settled, ?_, by rwa [queued, List.append_nil]⟩
    rw [fetched, List.filter_append, whole, waiting]
  | put record nothing fetched waiting queued =>
    refine ⟨settled ++ [record], ?_, ?_⟩
    · rw [fetched, whole, waiting, List.append_assoc, List.singleton_append]
    · rw [queued, nothing]
      exact dealt.append (.all_left [record])
  | gaveUp fetched waiting queued =>
    refine ⟨settled ++ given, ?_, ?_⟩
    · rw [fetched, whole, waiting, List.append_assoc]
    · have dealtAll : DealtOut (settled ++ given) (watcher.queued ++ []) (lost ++ given) :=
        dealt.append (.all_right given)
      rwa [List.append_nil, ← queued] at dealtAll

theorem Accounted.moveAll {lost : List Record} (accounted : Accounted accepts watcher lost)
    (handle : Record → ω → Bool × ω) (schedule : List WatcherMove) :
    Accounted accepts (watcher.moveAll accepts handle schedule)
      (lost ++ watcher.givenUpAlong accepts handle schedule) := by
  induction schedule generalizing watcher lost with
  | nil => simpa [Watcher.moveAll, givenUpAlong] using accounted
  | cons move rest ih =>
    have next := accounted.effect (effect_move accepts handle watcher move)
    simpa [Watcher.moveAll, givenUpAlong] using ih next

/-- Nobody wants a task of the watcher to stop, and nobody has gone away. -/
structure Calm (watcher : Watcher ω) : Prop where
  pollFlag : watcher.pollFlag.isSet = false ∧ watcher.pollFlag.hasOwner = true
  taskFlag : watcher.taskFlag.isSet = false ∧ watcher.taskFlag.hasOwner = true
  goesOn : watcher.isAbandoned = false

theorem calm_initial (script : List Fetch) (handler : ω) : Calm (.initial script handler) :=
  ⟨⟨rfl, rfl⟩, ⟨rfl, rfl⟩, rfl⟩

/-- The handler task and the flags are as before. -/
structure SameControl (watcher next : Watcher ω) : Prop where
  pollFlag : next.pollFlag = watcher.pollFlag
  taskFlag : next.taskFlag = watcher.taskFlag
  task : next.task = watcher.task

theorem sameControl_poll (polled : watcher.poll? accepts = some next) :
    SameControl watcher next := by
  cases pollStep_of_poll polled <;> exact ⟨rfl, rfl, rfl⟩

theorem Calm.ofSame (calm : Calm watcher) (same : SameControl watcher next) : Calm next where
  pollFlag := by rw [same.pollFlag]; exact calm.pollFlag
  taskFlag := by rw [same.taskFlag]; exact calm.taskFlag
  goesOn := by rw [isAbandoned, same.task]; exact calm.goesOn

/-- How many writes to the flag of the poll loop are still to be noticed. -/
def unnoticed (watcher : Watcher ω) : Nat := watcher.pollFlag.isUnseen.toNat

/-- A calm poll loop goes on after a write that it notices, one record poorer at most. -/
theorem Calm.noticePoll (calm : Calm watcher) (noticed : watcher.noticePoll? = some next) :
    Calm next ∧ (watcher.givenUp .noticePoll).length + next.unnoticed ≤ watcher.unnoticed := by
  obtain ⟨wakes, woken⟩ := pollWake_of_notice noticed
  have unseen : watcher.pollFlag.isUnseen = true := by
    simpa [ShutdownFlag.wakes, calm.pollFlag.2] using wakes
  have goesOn : watcher.pollFlag.stops = false := by
    simp [ShutdownFlag.stops, calm.pollFlag.1, unseen]
  have paid : (watcher.givenUp .noticePoll).length ≤ watcher.unnoticed := by
    have first : watcher.givenUp .noticePoll = watcher.poll.waiting.take 1 := by
      simp [givenUp, wakes, goesOn]
    have owed : watcher.unnoticed = 1 := by simp [unnoticed, unseen]
    rw [first, owed]
    exact List.length_take_le ..
  cases woken with
  | stopped stops =>
    rw [goesOn] at stops
    cases stops
  | restarted | skipped => exact ⟨⟨calm.pollFlag, calm.taskFlag, calm.goesOn⟩, paid⟩

theorem Calm.noticeTask (calm : Calm watcher) (noticed : watcher.noticeTask? = some next) :
    Calm next := by
  unfold noticeTask? at noticed
  split at noticed
  · next waits =>
    split at noticed
    · next wakes =>
      have unseen : watcher.taskFlag.isUnseen = true := by
        simpa [ShutdownFlag.wakes, calm.taskFlag.2] using wakes
      have goesOn : watcher.taskFlag.stops = false := by
        simp [ShutdownFlag.stops, calm.taskFlag.1, unseen]
      simp only [goesOn] at noticed
      cases noticed
      exact ⟨calm.pollFlag, calm.taskFlag, calm.goesOn⟩
    · cases noticed
  · cases noticed

theorem Calm.moveTask (calm : Calm watcher) (accepts : Record → Bool)
    (handle : Record → ω → Bool × ω) {move : WatcherMove} (ofTask : move.isOfTask) :
    Calm (watcher.move accepts handle move) := by
  cases move with
  | startTask =>
    simp only [Watcher.move, startTask]
    split
    · exact ⟨calm.pollFlag, calm.taskFlag, rfl⟩
    · exact calm
  | take =>
    simp only [Watcher.move, take?]
    split
    · exact ⟨calm.pollFlag, calm.taskFlag, rfl⟩
    · exact calm
  | complete =>
    simp only [Watcher.move, complete?]
    split
    · exact ⟨calm.pollFlag, calm.taskFlag, rfl⟩
    · exact calm
  | noticeTask =>
    cases noticed : watcher.noticeTask? with
    | none => simpa [Watcher.move, noticed] using calm
    | some next => simpa [Watcher.move, noticed] using calm.noticeTask noticed
  | start | poll | noticePoll | write | abandon | writeTask | abandonTask => cases ofTask

/-- In a calm move, what is given up is paid for by a write. -/
theorem Calm.move (calm : Calm watcher) (accepts : Record → Bool)
    (handle : Record → ω → Bool × ω) {move : WatcherMove} (isCalm : move.isCalm) :
    Calm (watcher.move accepts handle move) ∧
      (watcher.givenUp move).length + (watcher.move accepts handle move).unnoticed ≤
        watcher.unnoticed + [move].countP (·.isWrite) := by
  cases move with
  | start =>
    simp only [Watcher.move]
    split
    · exact ⟨calm, by simp [givenUp]⟩
    · exact ⟨calm.ofSame ⟨rfl, rfl, rfl⟩, by simp [givenUp, unnoticed, Watcher.start]⟩
  | poll =>
    have nothing : watcher.givenUp .poll = [] := by simp [givenUp, calm.goesOn]
    cases polled : watcher.poll? accepts with
    | none => simpa [Watcher.move, polled, nothing] using calm
    | some next =>
      have same := sameControl_poll polled
      simpa [Watcher.move, polled, nothing, unnoticed, same.pollFlag] using calm.ofSame same
  | noticePoll =>
    cases noticed : watcher.noticePoll? with
    | none =>
      simpa [Watcher.move, noticed, givenUp_noticePoll_of_none noticed] using calm
    | some next =>
      simpa [Watcher.move, noticed, WatcherMove.isWrite] using calm.noticePoll noticed
  | write value =>
    obtain rfl : value = false := by simpa [WatcherMove.isCalm] using isCalm
    refine ⟨⟨?_, calm.taskFlag, calm.goesOn⟩, ?_⟩
    · simp [Watcher.move, ShutdownFlag.write, calm.pollFlag.2]
    · simp [Watcher.move, ShutdownFlag.write, calm.pollFlag.2, givenUp, unnoticed,
        WatcherMove.isWrite]
  | writeTask value =>
    obtain rfl : value = false := by simpa [WatcherMove.isCalm] using isCalm
    refine ⟨⟨calm.pollFlag, ?_, calm.goesOn⟩, by simp [Watcher.move, givenUp, unnoticed]⟩
    simp [Watcher.move, ShutdownFlag.write, calm.taskFlag.2]
  | startTask | take | complete | noticeTask =>
    refine ⟨calm.moveTask accepts handle rfl, ?_⟩
    rw [unnoticed, (samePoll_move accepts handle watcher rfl).pollFlag]
    simp [givenUp, unnoticed]
  | abandon | abandonTask => cases isCalm

theorem Calm.moveAll (calm : Calm watcher) (accepts : Record → Bool)
    (handle : Record → ω → Bool × ω) {schedule : List WatcherMove}
    (isCalm : ∀ move ∈ schedule, move.isCalm) :
    (watcher.givenUpAlong accepts handle schedule).length ≤
      watcher.unnoticed + schedule.countP (·.isWrite) := by
  induction schedule generalizing watcher with
  | nil => exact Nat.zero_le _
  | cons move rest ih =>
    rw [List.forall_mem_cons] at isCalm
    -- A write that is noticed is no longer unseen, so it pays for one record only.
    obtain ⟨calmNext, paid⟩ := calm.move accepts handle isCalm.1
    have paidRest := ih calmNext isCalm.2
    rw [givenUpAlong, List.length_append, ← List.singleton_append, List.countP_append]
    omega

/-- Whatever happens to a watcher: the accepted records of all batches, apart from those that wait,
are dealt out in order to the queue and to what the poll loop gave up. So at the top of its loop it
has queued exactly the accepted records just if it never gave one up; and as long as no flag is
raised and none abandoned, it gives up no more records than there are writes to its flag. -/
theorem accepted_dealt_out (accepts : Record → Bool) (handle : Record → ω → Bool × ω)
    (script : List Fetch) (handler : ω) (schedule : List WatcherMove) :
    let watcher := (Watcher.initial script handler).moveAll accepts handle schedule
    let lost := (Watcher.initial script handler).givenUpAlong accepts handle schedule
    (∃ settled, watcher.fetched.filter accepts = settled ++ watcher.poll.waiting ∧
      DealtOut settled watcher.queued lost) ∧
    (watcher.poll = .deciding → (watcher.queued = watcher.fetched.filter accepts ↔ lost = [])) ∧
    ((∀ move ∈ schedule, move.isCalm) → lost.length ≤ schedule.countP (·.isWrite)) := by
  intro watcher lost
  have begun : Accounted accepts (Watcher.initial script handler) [] := ⟨[], rfl, .nil⟩
  have accounted : Accounted accepts watcher lost := begun.moveAll handle schedule
  refine ⟨accounted, fun top => ?_, fun isCalm => ?_⟩
  · obtain ⟨settled, whole, dealt⟩ := accounted
    have noneWaits : watcher.poll.waiting = [] := by rw [top]; rfl
    rw [whole, noneWaits, List.append_nil]
    exact dealt.eq_iff
  · have paid := (calm_initial script handler).moveAll accepts handle isCalm
    have noneBefore : (Watcher.initial script handler).unnoticed = 0 := rfl
    rwa [noneBefore, Nat.zero_add] at paid

/-- A write that is not noticed while a record waits costs nothing. -/
theorem unnoticed_write_loses_nothing :
    let first : Record := ⟨"jobs", 0, 0, none, none, none⟩
    let refused : Record := ⟨"news", 0, 1, none, none, none⟩
    let second : Record := ⟨"jobs", 0, 2, none, none, none⟩
    let accepts : Record → Bool := fun record => record.topic == "jobs"
    let schedule : List WatcherMove := [.start, .poll, .poll, .write false, .poll, .poll, .poll]
    let watcher := (Watcher.initial [⟨0, .ok [first, refused, second]⟩] ()).moveAll accepts
      (fun _ _ => (true, ())) schedule
    (∀ move ∈ schedule, move.isCalm) ∧ watcher.poll = .deciding ∧
      watcher.fetched = [first, refused, second] ∧ watcher.queued = [first, second] := by
  intro first refused second accepts schedule watcher
  have top : watcher.poll = .deciding := rfl
  obtain ⟨-, whole, -⟩ := accepted_dealt_out accepts (fun _ _ => (true, ()))
    [⟨0, .ok [first, refused, second]⟩] () schedule
  exact ⟨by decide, top, rfl, (whole top).mpr rfl⟩

/-- As long as there is room, a poll loop queues one record after the other. -/
theorem moveAll_polls (handle : Record → ω → Bool × ω) (records rest : List Record)
    (waiting : watcher.poll = .queueing (records ++ rest))
    (goesOn : watcher.isAbandoned = false)
    (room : watcher.queue.length + records.length ≤ capacity) :
    watcher.moveAll accepts handle (List.replicate records.length .poll) =
      { watcher with
        queue := watcher.queue ++ records
        queued := watcher.queued ++ records
        poll := .queueing rest } := by
  induction records generalizing watcher with
  | nil =>
    rw [List.nil_append] at waiting
    simp [Watcher.moveAll, ← waiting]
  | cons record others ih =>
    rw [List.length_cons] at room
    have polled : watcher.move accepts handle .poll =
        { watcher with
          queue := watcher.queue ++ [record]
          queued := watcher.queued ++ [record]
          poll := .queueing (others ++ rest) } := by
      have isRoom : watcher.queue.length < capacity := by omega
      simp [Watcher.move, poll?, waiting, put?, goesOn, isRoom]
    have roomNext : (watcher.move accepts handle .poll).queue.length + others.length ≤
        capacity := by
      rw [polled, List.length_append, List.length_singleton]
      omega
    have later : (watcher.move accepts handle .poll).moveAll accepts handle
        (List.replicate others.length .poll) = _ :=
      ih (by rw [polled]) (by rw [polled]; exact goesOn) roomNext
    rw [List.length_cons, List.replicate_succ]
    refine later.trans ?_
    simp [polled]

/-- The moves of a watcher whose first batch has one record more than there is room for: a write that
leaves the flag lowered is noticed while that record waits. -/
def nudgeWhenFull : List WatcherMove :=
  [.start, .poll, .poll] ++ List.replicate capacity .poll ++ [.write false, .noticePoll, .poll]

theorem isCalm_nudgeWhenFull : ∀ move ∈ nudgeWhenFull, move.isCalm := by
  intro move isMove
  simp only [nudgeWhenFull, List.mem_append, List.mem_cons, List.mem_replicate, List.not_mem_nil,
    or_false] at isMove
  rcases isMove with ((rfl | rfl | rfl) | ⟨-, rfl⟩) | rfl | rfl | rfl <;> rfl

/-- The poll loop goes on without that record. -/
theorem moveAll_nudgeWhenFull (handle : Record → ω → Bool × ω) (handler : ω)
    {records : List Record} {last : Record} (full : records.length = capacity)
    (accepted : ∀ record ∈ records ++ [last], accepts record) :
    (Watcher.initial [⟨0, .ok (records ++ [last])⟩] handler).moveAll accepts handle nudgeWhenFull =
      { Watcher.initial [] handler with
        poll := .deciding
        queue := records
        queued := records
        fetched := records ++ [last] } := by
  have received : (Watcher.initial [⟨0, .ok (records ++ [last])⟩] handler).moveAll accepts handle
      [.start, .poll, .poll] =
        { Watcher.initial [] handler with
          poll := .queueing (records ++ [last])
          fetched := records ++ [last] } := by
    have whole : (records ++ [last]).filter accepts = records ++ [last] :=
      List.filter_eq_self.mpr accepted
    calc
      _ = { Watcher.initial [] handler with
            poll := .queueing ((records ++ [last]).filter accepts)
            fetched := records ++ [last] } := rfl
      _ = _ := by rw [whole]
  rw [nudgeWhenFull, moveAll_append, moveAll_append, received, ← full]
  rw [moveAll_polls handle records [last] rfl rfl (by simp [initial, full])]
  rfl

/-- Of 101 accepted records the last never gets into the queue, although no flag is ever raised and
nobody goes away. -/
theorem nudged_watcher_loses_record :
    let queued : List Record := List.replicate 100 ⟨"jobs", 0, 0, none, none, none⟩
    let last : Record := ⟨"jobs", 0, 1, none, none, none⟩
    let watcher := (Watcher.initial [⟨0, .ok (queued ++ [last])⟩] ()).moveAll (fun _ => true)
      (fun _ _ => (true, ())) nudgeWhenFull
    (∀ move ∈ nudgeWhenFull, move.isCalm) ∧ watcher.poll = .deciding ∧
      watcher.queued = queued ∧ watcher.fetched.filter (fun _ => true) = queued ++ [last] := by
  intro queued last watcher
  have reached : watcher = _ :=
    moveAll_nudgeWhenFull (fun _ _ => (true, ())) () List.length_replicate (by simp)
  refine ⟨isCalm_nudgeWhenFull, by rw [reached], by rw [reached], ?_⟩
  rw [reached, List.filter_eq_self]
  simp

end Watcher

end EventCorrelation
