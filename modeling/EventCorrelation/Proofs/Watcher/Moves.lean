import EventCorrelation.Watcher.Run

/-!
# What the poll loop does

The steps of a poll loop and the ways in which its flag wakes it, each with all that it changes. What
a poll loop does to its batches, to the queue, to its flag and to its result is read off them.
-/

namespace EventCorrelation.Watcher

variable {ω : Type} {accepts : Record → Bool} {watcher next : Watcher ω}

/-- What the poll loop can do by itself. -/
inductive PollStep (accepts : Record → Bool) (watcher : Watcher ω) : Watcher ω → Prop where
  | stopped (phase : watcher.poll = .deciding) (raised : watcher.pollFlag.isSet = true) :
    PollStep accepts watcher { watcher with poll := .ended (.ok ()) }
  | idle (phase : watcher.poll = .deciding) (unread : watcher.script = []) :
    PollStep accepts watcher { watcher with poll := .idling }
  | asked (fetch : Fetch) (rest : List Fetch) (phase : watcher.poll = .deciding)
      (unread : watcher.script = fetch :: rest) :
    PollStep accepts watcher { watcher with poll := .fetching fetch, script := rest }
  | failed (fetch : Fetch) (fault : BusFault) (phase : watcher.poll = .fetching fetch)
      (outcome : fetch.outcome = .error fault) :
    PollStep accepts watcher { watcher with poll := .ended (.error fault.ofFetch) }
  | fetched (fetch : Fetch) (records : List Record) (phase : watcher.poll = .fetching fetch)
      (outcome : fetch.outcome = .ok records) :
    PollStep accepts watcher
      { watcher with
        fetched := watcher.fetched ++ records, poll := .queueing (records.filter accepts) }
  | through (phase : watcher.poll = .queueing []) :
    PollStep accepts watcher { watcher with poll := .deciding }
  | abandoned (record : Record) (rest : List Record)
      (phase : watcher.poll = .queueing (record :: rest)) (gone : watcher.isAbandoned = true) :
    PollStep accepts watcher { watcher with poll := .ended (.error .closed) }
  | put (record : Record) (rest : List Record) (phase : watcher.poll = .queueing (record :: rest))
      (attended : watcher.isAbandoned = false) (room : watcher.queue.length < capacity) :
    PollStep accepts watcher
      { watcher with
        queue := watcher.queue ++ [record], queued := watcher.queued ++ [record]
        poll := .queueing rest }

theorem pollStep_of_poll (polled : watcher.poll? accepts = some next) :
    PollStep accepts watcher next := by
  unfold poll? at polled
  split at polled
  · next phase =>
    cases polled
    unfold decide
    split
    · next raised => exact .stopped phase raised
    · split
      · next unread => exact .idle phase unread
      · next fetch rest unread => exact .asked fetch rest phase unread
  · next fetch phase =>
    cases polled
    unfold receive
    split
    · next fault outcome => exact .failed fetch fault phase outcome
    · next records outcome => exact .fetched fetch records phase outcome
  · next phase =>
    cases polled
    exact .through phase
  · next record rest phase =>
    unfold put? at polled
    split at polled
    · next gone =>
      cases polled
      exact .abandoned record rest phase gone
    · next attended =>
      split at polled
      · next room =>
        cases polled
        exact .put record rest phase (Bool.eq_false_iff.mpr attended) room
      · cases polled
  · cases polled

/-- What a poll loop can be brought to do by its flag. -/
inductive PollWake (watcher : Watcher ω) : Watcher ω → Prop where
  | stopped (stops : watcher.pollFlag.stops = true) :
    PollWake watcher
      { watcher with pollFlag := watcher.pollFlag.seen, poll := .ended (.ok ()) }
  | restarted (goesOn : watcher.pollFlag.stops = false) (noneWaits : watcher.poll.waiting = []) :
    PollWake watcher { watcher with pollFlag := watcher.pollFlag.seen, poll := .deciding }
  | skipped (record : Record) (rest : List Record) (goesOn : watcher.pollFlag.stops = false)
      (phase : watcher.poll = .queueing (record :: rest)) :
    PollWake watcher { watcher with pollFlag := watcher.pollFlag.seen, poll := .queueing rest }

theorem pollWake_of_notice (noticed : watcher.noticePoll? = some next) :
    watcher.pollFlag.wakes = true ∧ PollWake watcher next := by
  unfold noticePoll? at noticed
  split at noticed
  · next wakes =>
    refine ⟨wakes, ?_⟩
    cases stops : watcher.pollFlag.stops with
    | true =>
      have ends (phase : PollPhase) : PollWake watcher (watcher.wakePoll phase) := by
        rw [wakePoll, stops]
        exact .stopped stops
      split at noticed
      · cases noticed; exact ends _
      · cases noticed; exact ends _
      · cases noticed; exact ends _
      · cases noticed
    | false =>
      have goesOn (phase : PollPhase) : watcher.wakePoll phase =
          { watcher with pollFlag := watcher.pollFlag.seen, poll := phase } := by
        rw [wakePoll, stops]
        rfl
      simp only [goesOn] at noticed
      split at noticed
      · next phase =>
        cases noticed
        exact .restarted stops (by rw [phase]; rfl)
      · next phase =>
        cases noticed
        exact .restarted stops (by rw [phase]; rfl)
      · next record rest phase =>
        cases noticed
        exact .skipped record rest stops phase
      · cases noticed
  · cases noticed

end EventCorrelation.Watcher
