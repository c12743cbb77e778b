import EventCorrelation.Proofs.Watcher.Losses

/-!
# Safety of a watcher

The poll loop, the handler task and the writes to their flags may follow each other in any order.
Three sequences stay in step all the same: the accepted records of the batches, what was put into
the queue, and what the handler was called on. Each is a part of the one before it, in the same
order, so nothing is handled twice; and the queue never outgrows its capacity.
-/

namespace EventCorrelation

namespace ExplainsEnd

variable {script : List Fetch}

theorem stays {task later : TaskPhase} {fault : BusFault}
    (explains : ExplainsEnd script task fault) (stays : task = .stopped → later = .stopped) :
    ExplainsEnd script later fault :=
  explains.imp_right fun gone => ⟨gone.1, stays gone.2⟩

theorem ofFetch {fetch : Fetch} (member : fetch ∈ script) {cause : BusFault}
    (failed : fetch.outcome = .error cause) (task : TaskPhase) :
    ExplainsEnd script task cause.ofFetch := by
  left
  unfold BusFault.ofFetch
  split
  · next reason => exact ⟨fetch, member, .fetching reason, reason, failed, rfl, .inl rfl⟩
  · next other => exact ⟨fetch, member, cause, cause.message, failed, rfl, .inr ⟨other, rfl⟩⟩

end ExplainsEnd

namespace Watcher

variable {ω : Type} {accepts : Record → Bool} {handle : Record → ω → Bool × ω}
  {watcher next : Watcher ω} {calls new : List HandlerCall}

/-- What can have become of the queue and of the handler task by one move, in which calls return. -/
inductive TaskEffect (watcher next : Watcher ω) (new : List HandlerCall) : Prop where
  | aside (noCall : new = [])
      (queue : next.queue = watcher.queue) (queued : next.queued = watcher.queued)
      (handled : next.handled = watcher.handled)
      (count : next.handledCount = watcher.handledCount)
      (inHand : next.task.inHand = watcher.task.inHand)
  | put (record : Record) (noCall : new = [])
      (room : watcher.queue.length < capacity)
      (queue : next.queue = watcher.queue ++ [record])
      (queued : next.queued = watcher.queued ++ [record])
      (handled : next.handled = watcher.handled)
      (count : next.handledCount = watcher.handledCount)
      (inHand : next.task.inHand = watcher.task.inHand)
  | taken (record : Record) (noCall : new = [])
      (queue : watcher.queue = record :: next.queue) (queued : next.queued = watcher.queued)
      (handled : next.handled = watcher.handled ++ [record])
      (count : next.handledCount = watcher.handledCount)
      (inHand : watcher.task.inHand = [] ∧ next.task.inHand = [record])
  | returned (call : HandlerCall) (oneCall : new = [call])
      (queue : next.queue = watcher.queue) (queued : next.queued = watcher.queued)
      (handled : next.handled = watcher.handled)
      (count : next.handledCount = watcher.handledCount + 1)
      (inHand : watcher.task.inHand = [call.record] ∧ next.task.inHand = [])
  | stopped (noCall : new = [])
      (queue : next.queue = []) (queued : next.queued = watcher.queued)
      (handled : next.handled = watcher.handled)
      (count : next.handledCount = watcher.handledCount)
      (inHand : next.task.inHand = watcher.task.inHand)

theorem taskEffect_self : TaskEffect watcher watcher [] :=
  .aside rfl rfl rfl rfl rfl rfl

theorem taskEffect_poll (polled : watcher.poll? accepts = some next) :
    TaskEffect watcher next [] := by
  cases pollStep_of_poll polled with
  | stopped | idle | asked | failed | fetched | through | abandoned =>
    exact .aside rfl rfl rfl rfl rfl rfl
  | put record rest phase attended room => exact .put record rfl room rfl rfl rfl rfl rfl

theorem taskEffect_noticePoll (noticed : watcher.noticePoll? = some next) :
    TaskEffect watcher next [] := by
  obtain ⟨-, woken⟩ := pollWake_of_notice noticed
  cases woken <;> exact .aside rfl rfl rfl rfl rfl rfl

theorem taskEffect_noticeTask (noticed : watcher.noticeTask? = some next) :
    TaskEffect watcher next [] := by
  unfold noticeTask? at noticed
  split at noticed
  · next waits =>
    split at noticed
    · cases noticed
      split
      · exact .stopped rfl rfl rfl rfl rfl (by rw [waits]; rfl)
      · exact .aside rfl rfl rfl rfl rfl rfl
    · cases noticed
  · cases noticed

/-- Every move does one of these things to the queue and the handler task. -/
theorem taskEffect_move (accepts : Record → Bool) (handle : Record → ω → Bool × ω)
    (watcher : Watcher ω) (move : WatcherMove) :
    TaskEffect watcher (watcher.move accepts handle move) (watcher.returned handle move) := by
  cases move with
  | start =>
    simp only [Watcher.move]
    split <;> exact .aside rfl rfl rfl rfl rfl rfl
  | poll =>
    cases polled : watcher.poll? accepts with
    | none => simpa [Watcher.move, returned, polled] using taskEffect_self
    | some next => simpa [Watcher.move, returned, polled] using taskEffect_poll polled
  | noticePoll =>
    cases noticed : watcher.noticePoll? with
    | none => simpa [Watcher.move, returned, noticed] using taskEffect_self
    | some next => simpa [Watcher.move, returned, noticed] using taskEffect_noticePoll noticed
  | startTask =>
    simp only [Watcher.move, startTask]
    split
    · next notStarted => exact .aside rfl rfl rfl rfl rfl (by rw [notStarted]; rfl)
    · exact taskEffect_self
  | take =>
    simp only [Watcher.move, take?]
    split
    · next record rest waits queue =>
      exact .taken record rfl queue rfl rfl rfl ⟨by rw [waits]; rfl, rfl⟩
    · exact taskEffect_self
  | complete =>
    simp only [Watcher.move, complete?]
    split
    · next record works =>
      refine .returned ⟨record, (handle record watcher.handler).1⟩ ?_ rfl rfl rfl rfl
        ⟨by rw [works]; rfl, rfl⟩
      simp [returned, works, TaskPhase.inHand]
    · next notWorking =>
      have noCall : watcher.returned handle .complete = [] := by
        cases phase : watcher.task with
        | working record => exact absurd phase (notWorking record)
        | notStarted | waiting | stopped => simp [returned, phase, TaskPhase.inHand]
      rw [noCall]
      exact taskEffect_self
  | noticeTask =>
    cases noticed : watcher.noticeTask? with
    | none => simpa [Watcher.move, returned, noticed] using taskEffect_self
    | some next => simpa [Watcher.move, returned, noticed] using taskEffect_noticeTask noticed
  | write value | abandon | writeTask value | abandonTask => exact .aside rfl rfl rfl rfl rfl rfl

/-- What holds of the queue and the handler task between any two moves, given the calls that have
returned. -/
structure InStep (watcher : Watcher ω) (calls : List HandlerCall) : Prop where
  handled : watcher.handled = calls.map (·.record) ++ watcher.task.inHand
  count : watcher.handledCount = calls.length
  queued : (watcher.handled ++ watcher.queue).Sublist watcher.queued
  room : watcher.queue.length ≤ capacity

theorem InStep.effect (inStep : InStep watcher calls) (effect : TaskEffect watcher next new) :
    InStep next (calls ++ new) := by
  obtain ⟨handledEq, countEq, queuedSub, roomLe⟩ := inStep
  cases effect with
  | aside noCall queue queued handled count inHand =>
    rw [noCall, List.append_nil]
    constructor
    · rw [handled, inHand, handledEq]
    · rw [count, countEq]
    · rwa [handled, queue, queued]
    · rwa [queue]
  | put record noCall room queue queued handled count inHand =>
    rw [noCall, List.append_nil]
    constructor
    · rw [handled, inHand, handledEq]
    · rw [count, countEq]
    · rw [handled, queue, queued, ← List.append_assoc]
      exact queuedSub.append_right [record]
    · rw [queue, List.length_append, List.length_singleton]
      omega
  | taken record noCall queue queued handled count inHand =>
    rw [noCall, List.append_nil]
    constructor
    · rw [handled, inHand.2, handledEq, inHand.1, List.append_nil]
    · rw [count, countEq]
    · rw [handled, queued, List.append_assoc, List.singleton_append, ← queue]
      exact queuedSub
    · rw [queue, List.length_cons] at roomLe
      omega
  | returned call oneCall queue queued handled count inHand =>
    constructor
    · simp [handled, inHand.2, handledEq, inHand.1, oneCall]
    · simp [count, countEq, oneCall]
    · rwa [handled, queue, queued]
    · rwa [queue]
  | stopped noCall queue queued handled count inHand =>
    rw [noCall, List.append_nil]
    constructor
    · rw [handled, inHand, handledEq]
    · rw [count, countEq]
    · rw [handled, queue, queued, List.append_nil]
      exact (List.sublist_append_left ..).trans queuedSub
    · simp [queue]

theorem InStep.moveAll (inStep : InStep watcher calls) (accepts : Record → Bool)
    (handle : Record → ω → Bool × ω) (schedule : List WatcherMove) :
    InStep (watcher.moveAll accepts handle schedule)
      (calls ++ watcher.returnedAlong accepts handle schedule) := by
  induction schedule generalizing watcher calls with
  | nil => simpa [Watcher.moveAll, returnedAlong] using inStep
  | cons move rest ih =>
    have later := ih (inStep.effect (taskEffect_move accepts handle watcher move))
    simpa [Watcher.moveAll, returnedAlong] using later

/-- What the poll loop says when it ends comes from the script or from the handler task. -/
structure Explained (script : List Fetch) (watcher : Watcher ω) : Prop where
  unread : watcher.script ⊆ script
  fetching : ∀ fetch, watcher.poll = .fetching fetch → fetch ∈ script
  fault : ∀ fault, watcher.poll = .ended (.error fault) → ExplainsEnd script watcher.task fault

variable {script : List Fetch}

theorem Explained.ofSame (explained : Explained script watcher) (script_eq : next.script = watcher.script)
    (poll : next.poll = watcher.poll) (stays : watcher.task = .stopped → next.task = .stopped) :
    Explained script next where
  unread := by rw [script_eq]; exact explained.unread
  fetching := by rw [poll]; exact explained.fetching
  fault := by
    rw [poll]
    exact fun fault ended => (explained.fault fault ended).stays stays

/-- The poll loop is neither fetching nor over because of a fault. -/
def isElsewhere : PollPhase → Bool
  | .fetching _ => false
  | .ended (.error _) => false
  | _ => true

theorem Explained.elsewhere (explained : Explained script watcher)
    (script_eq : next.script = watcher.script) (elsewhere : isElsewhere next.poll = true) :
    Explained script next where
  unread := by rw [script_eq]; exact explained.unread
  fetching := by
    intro fetch reached
    rw [reached] at elsewhere
    cases elsewhere
  fault := by
    intro fault reached
    rw [reached] at elsewhere
    cases elsewhere

theorem Explained.poll (explained : Explained script watcher)
    (polled : watcher.poll? accepts = some next) : Explained script next := by
  cases pollStep_of_poll polled with
  | stopped | idle | fetched | through | put => exact explained.elsewhere rfl rfl
  | asked fetch rest phase unread =>
    have given : fetch :: rest ⊆ script := unread ▸ explained.unread
    constructor
    · intro other member
      exact given (List.mem_cons_of_mem _ member)
    · intro other reached
      cases reached
      exact given (List.mem_cons_self ..)
    · intro fault reached
      cases reached
  | failed fetch cause phase outcome =>
    constructor
    · exact explained.unread
    · intro other reached
      cases reached
    · intro fault reached
      cases reached
      exact .ofFetch (explained.fetching fetch phase) outcome _
  | abandoned record rest phase gone =>
    constructor
    · exact explained.unread
    · intro other reached
      cases reached
    · intro fault reached
      cases reached
      have stopped : watcher.task = .stopped := by simpa [isAbandoned] using gone
      exact .inr ⟨rfl, stopped⟩

theorem Explained.noticePoll (explained : Explained script watcher)
    (noticed : watcher.noticePoll? = some next) : Explained script next := by
  obtain ⟨-, woken⟩ := pollWake_of_notice noticed
  cases woken <;> exact explained.elsewhere rfl rfl

/-- A handler task that is gone stays so. -/
theorem stopped_move (accepts : Record → Bool) (handle : Record → ω → Bool × ω)
    {move : WatcherMove} (ofTask : move.isOfTask) (stopped : watcher.task = .stopped) :
    (watcher.move accepts handle move).task = .stopped := by
  cases move with
  | startTask | take | complete | noticeTask =>
    simp [Watcher.move, startTask, take?, complete?, noticeTask?, stopped]
  | start | poll | noticePoll | write | abandon | writeTask | abandonTask => cases ofTask

theorem Explained.moveTask (explained : Explained script watcher) (accepts : Record → Bool)
    (handle : Record → ω → Bool × ω) {move : WatcherMove} (ofTask : move.isOfTask) :
    Explained script (watcher.move accepts handle move) := by
  have same := samePoll_move accepts handle watcher ofTask
  exact explained.ofSame same.script same.poll (stopped_move accepts handle ofTask)

theorem Explained.move (explained : Explained script watcher) (accepts : Record → Bool)
    (handle : Record → ω → Bool × ω) (move : WatcherMove) :
    Explained script (watcher.move accepts handle move) := by
  cases move with
  | start =>
    simp only [Watcher.move]
    split
    · exact explained
    · exact explained.elsewhere rfl rfl
  | poll =>
    cases polled : watcher.poll? accepts with
    | none => simpa [Watcher.move, polled] using explained
    | some next => simpa [Watcher.move, polled] using explained.poll polled
  | noticePoll =>
    cases noticed : watcher.noticePoll? with
    | none => simpa [Watcher.move, noticed] using explained
    | some next => simpa [Watcher.move, noticed] using explained.noticePoll noticed
  | startTask | take | complete | noticeTask =>
    exact explained.moveTask accepts handle rfl
  | write value | abandon | writeTask value | abandonTask => exact explained.ofSame rfl rfl id

theorem Explained.moveAll (explained : Explained script watcher) (accepts : Record → Bool)
    (handle : Record → ω → Bool × ω) (schedule : List WatcherMove) :
    Explained script (watcher.moveAll accepts handle schedule) := by
  induction schedule generalizing watcher with
  | nil => exact explained
  | cons move rest ih => exact ih (explained.move accepts handle move)

/-- A call that has returned has its place among the accepted records: the calls before it are on
records before that place, and whatever comes after it is on records behind that place. -/
theorem InStep.place (inStep : InStep watcher calls) {accepted : List Record}
    (queued : watcher.queued.Sublist accepted) {earlier later : List HandlerCall} {call : HandlerCall}
    (split : calls = earlier ++ call :: later) :
    ∃ past future, accepted = past ++ call.record :: future ∧
      (earlier.map (·.record)).Sublist past ∧
      (later.map (·.record) ++ watcher.task.inHand ++ watcher.queue).Sublist future := by
  have whole : (earlier.map (·.record) ++ call.record ::
      (later.map (·.record) ++ watcher.task.inHand ++ watcher.queue)).Sublist accepted := by
    have sublist := inStep.queued.trans queued
    rw [inStep.handled, split] at sublist
    simpa using sublist
  obtain ⟨past, rest, rfl, before, behind⟩ := List.append_sublist_iff.mp whole
  obtain ⟨between, future, rfl, member, after⟩ := List.cons_sublist_iff.mp behind
  obtain ⟨skipped, more, rfl⟩ := List.append_of_mem member
  refine ⟨past ++ skipped, more ++ future, by simp, ?_, ?_⟩
  · exact before.trans (List.sublist_append_left ..)
  · exact after.trans (List.sublist_append_right ..)

end Watcher

end EventCorrelation
