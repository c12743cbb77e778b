import EventCorrelation.Consumer.Run
import Mathlib.Data.List.Induction

/-!
# What a move does

The moves of a member, sorted by what they do to records: a session is asked for, it begins, a
record is handed to the worker, a record is marked once its call has returned, or none of these. All
that is said about runs follows from these five cases.
-/

namespace EventCorrelation.Member

variable {ω : Type} {work : Record → ω → Bool × ω}

section Fields

variable (member : Member ω) (event : MemberEvent)

@[simp]
theorem note_history : (member.note event).history = member.history ++ [event] := rfl

@[simp]
theorem note_phase : (member.note event).phase = member.phase := rfl

@[simp]
theorem note_sessions : (member.note event).sessions = member.sessions := rfl

@[simp]
theorem note_worker : (member.note event).worker = member.worker := rfl

@[simp]
theorem stop_history : member.stop.history = member.history ++ [.stopped] := rfl

@[simp]
theorem stop_phase : member.stop.phase = .stopped := rfl

@[simp]
theorem stop_sessions : member.stop.sessions = member.sessions := rfl

@[simp]
theorem stop_worker : member.stop.worker = member.worker := rfl

end Fields

/-- The event is neither about a record nor about the beginning of a session. -/
def IsAside (event : MemberEvent) : Prop := event.isWork = false ∧ event ≠ .asked

/-- What can have become of a member by one move. -/
inductive Effect (work : Record → ω → Bool × ω) (member next : Member ω) : Prop where
  | aside (events : List MemberEvent)
      (history : next.history = member.history ++ events)
      (isAside : ∀ event ∈ events, IsAside event)
      (phase : next.phase = member.phase ∨ next.phase ∈ [.deciding, .pausing, .stopped])
      (sessions : next.sessions = member.sessions)
      (worker : next.worker = member.worker)
  | asked
      (history : next.history = member.history ++ [.asked])
      (sessions : member.sessions = [] ∧ next.sessions = [] ∧ next.phase = .idling ∨
        ∃ session, member.sessions = session :: next.sessions ∧ next.phase = .joining session)
      (worker : next.worker = member.worker)
  | began (session : Session)
      (phase : member.phase = .joining session) (admitted : session.refusal = none)
      (history : next.history = member.history ++ [.began next.generation])
      (nextPhase : next.phase = .waiting session session.records)
      (sessions : next.sessions = member.sessions)
      (worker : next.worker = member.worker)
  | handed (session : Session) (record : Record) (rest : List Record)
      (phase : member.phase = .waiting session (record :: rest))
      (history : next.history = member.history ++ [.handed record])
      (nextPhase : next.phase = .working session record rest)
      (sessions : next.sessions = member.sessions)
      (worker : next.worker = member.worker)
  | completed (session : Session) (record : Record) (rest : List Record)
      (phase : member.phase = .working session record rest)
      (history : next.history = member.history ++
        [.handled record (work record member.worker).1, .marked record])
      (nextPhase : next.phase = .waiting session rest)
      (sessions : next.sessions = member.sessions)
      (worker : next.worker = (work record member.worker).2)

variable {member next : Member ω}

/-- A move that changes neither what has happened nor the phase. -/
theorem Effect.unchanged (history : next.history = member.history)
    (phase : next.phase = member.phase) (sessions : next.sessions = member.sessions)
    (worker : next.worker = member.worker) : Effect work member next :=
  .aside [] (by simpa using history) (by simp) (.inl phase) sessions worker

/-- A member that stops has done nothing with records. -/
theorem Effect.stop (events : List MemberEvent)
    (history : next.history = member.history ++ events)
    (isAside : ∀ event ∈ events, IsAside event)
    (sessions : next.sessions = member.sessions) (worker : next.worker = member.worker) :
    Effect work member next.stop := by
  refine .aside (events ++ [.stopped]) ?_ ?_ (.inr (by simp)) sessions worker
  · rw [stop_history, history, List.append_assoc]
  · intro event isEvent
    rcases List.mem_append.mp isEvent with earlier | last
    · exact isAside event earlier
    · rw [List.mem_singleton.mp last]
      exact ⟨rfl, nofun⟩

/-- A session that has failed leads to a pause or to the end. -/
theorem Effect.recover (events : List MemberEvent) (fault : BusFault)
    (history : next.history = member.history ++ events)
    (isAside : ∀ event ∈ events, IsAside event)
    (sessions : next.sessions = member.sessions) (worker : next.worker = member.worker) :
    Effect work member (next.recover fault) := by
  unfold Member.recover
  split
  · exact Effect.stop events history isAside sessions worker
  · exact .aside events history isAside (.inr (by simp)) sessions worker

theorem effect_decide : Effect work member member.decide := by
  unfold decide
  split
  · exact Effect.stop [] (by simp) (by simp) rfl rfl
  · dsimp only
    split
    · next noSession => exact .asked rfl (.inl ⟨noSession, noSession, rfl⟩) rfl
    · next session rest someSession =>
      exact .asked rfl (.inr ⟨session, someSession, rfl⟩) rfl

theorem effect_join {session : Session} (phase : member.phase = .joining session) :
    Effect work member (member.join session) := by
  unfold join
  split
  · next fault _ => exact Effect.recover [] fault (by simp) (by simp) rfl rfl
  · next admitted => exact .began session phase admitted rfl rfl rfl rfl

theorem effect_finish (session : Session) : Effect work member (member.finish session) := by
  have history : (member.note (.ended member.generation)).history =
      member.history ++ [.ended member.generation] := rfl
  have isAside : ∀ event ∈ [MemberEvent.ended member.generation], IsAside event := by
    intro event isEvent
    rw [List.mem_singleton.mp isEvent]
    exact ⟨rfl, nofun⟩
  unfold finish
  dsimp only
  split
  · next fault _ => exact Effect.recover _ fault history isAside rfl rfl
  · exact .aside _ history isAside (.inr (by simp)) rfl rfl

theorem effect_proceed (proceeds : member.proceed? work = some next) : Effect work member next := by
  unfold proceed? at proceeds
  split at proceeds
  · cases proceeds; exact effect_decide
  · next session phase => cases proceeds; exact effect_join phase
  · next session _ => cases proceeds; exact effect_finish session
  · next session record rest phase =>
    cases proceeds
    exact .handed session record rest phase rfl rfl rfl rfl
  · next session record rest phase =>
    cases proceeds
    refine .completed session record rest phase ?_ rfl rfl rfl
    simp [complete, note]
  · cases proceeds
    exact .aside [] (by simp) (by simp) (.inr (by simp)) rfl rfl
  · cases proceeds

theorem effect_notice (noticed : member.notice? = some next) : Effect work member next := by
  unfold notice? at noticed
  split at noticed
  · cases noticed
    split
    · exact Effect.stop [] (by simp) (by simp) rfl rfl
    · exact .aside [] (by simp) (by simp) (.inr (by simp)) rfl rfl
  · cases noticed

theorem effect_close (failing : Option BusFault) :
    Effect work member (member.close failing).2 := by
  unfold close
  split
  · exact Effect.unchanged rfl rfl rfl rfl
  · refine .aside [.released] rfl ?_ (.inl rfl) rfl rfl
    intro event isEvent
    rw [List.mem_singleton.mp isEvent]
    exact ⟨rfl, nofun⟩

/-- Every move does one of these things. -/
theorem effect_move (work : Record → ω → Bool × ω) (member : Member ω) (move : MemberMove) :
    Effect work member (member.move work move) := by
  have same : Effect work member member := Effect.unchanged rfl rfl rfl rfl
  cases move with
  | proceed =>
    cases proceeds : member.proceed? work with
    | none => simpa [Member.move, proceeds] using same
    | some next => simpa [Member.move, proceeds] using effect_proceed proceeds
  | notice =>
    cases noticed : member.notice? with
    | none => simpa [Member.move, noticed] using same
    | some next =>
      have effect : Effect work member next := effect_notice noticed
      simpa [Member.move, noticed] using effect
  | start flag =>
    simp only [Member.move]
    split
    · exact same
    · exact .aside [] (by simp [Member.start]) (by simp) (.inr (by simp [Member.start])) rfl rfl
  | takeReady => exact Effect.unchanged rfl rfl rfl rfl
  | close failing => exact effect_close failing
  | write value => exact Effect.unchanged rfl rfl rfl rfl
  | abandon => exact Effect.unchanged rfl rfl rfl rfl

theorem moveAll_append (work : Record → ω → Bool × ω) (first later : List MemberMove)
    (member : Member ω) :
    member.moveAll work (first ++ later) = (member.moveAll work first).moveAll work later :=
  List.foldl_append ..

theorem moveAll_concat (work : Record → ω → Bool × ω) (schedule : List MemberMove)
    (last : MemberMove) (member : Member ω) :
    member.moveAll work (schedule ++ [last]) = (member.moveAll work schedule).move work last :=
  moveAll_append work schedule [last] member

end EventCorrelation.Member
