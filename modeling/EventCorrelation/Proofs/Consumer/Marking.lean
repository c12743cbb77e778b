import EventCorrelation.Proofs.Consumer.Moves

/-!
# Marking

However a run is cut short, no record is lost by being marked too early: a record is marked right
after the worker's call on it has returned, in the order in which the claim brought the records, so
at most the last one of a session is left unmarked.

The history of a member is read here by a machine with few states, which knows how far the worker
has come and accepts nothing out of place. It is shown to accept every history.
-/

namespace EventCorrelation

/-- How far the worker has come. -/
inductive WorkProgress where
  /-- No session has been asked for yet. -/
  | away
  | free
  | called (record : Record)
  | returned (record : Record)
deriving DecidableEq

namespace WorkProgress

/-- A call has returned and its record is not marked yet. -/
def isReturned : WorkProgress → Bool
  | .returned _ => true
  | _ => false

/-- The record that was handed out and is not marked. -/
def unmarked : WorkProgress → List Record
  | .called record => [record]
  | .returned record => [record]
  | _ => []

/-- The progress after an event, if the event has a place there. -/
def next? (progress : WorkProgress) (event : MemberEvent) : Option WorkProgress :=
  match event with
  | .handed record => if progress = .free then some (.called record) else none
  | .handled record _ => if progress = .called record then some (.returned record) else none
  | .marked record => if progress = .returned record then some .free else none
  | .asked => if progress.isReturned then none else some .free
  | _ => if progress.isReturned then none else some progress

variable {first last progress : WorkProgress} {event : MemberEvent} {events : List MemberEvent}

theorem next?_aside (isAside : Member.IsAside event) (settled : progress.isReturned = false) :
    progress.next? event = some progress := by
  obtain ⟨notWork, notAsked⟩ := isAside
  cases event with
  | asked => exact absurd rfl notAsked
  | handed | handled | marked => cases notWork
  | began | ended | released | stopped => simp [next?, settled]

theorem foldlM_aside (isAside : ∀ event ∈ events, Member.IsAside event)
    (settled : progress.isReturned = false) : events.foldlM next? progress = some progress := by
  induction events with
  | nil => rfl
  | cons event rest ih =>
    rw [List.foldlM_cons, next?_aside (isAside event (List.mem_cons_self ..)) settled]
    exact ih fun other member => isAside other (List.mem_cons_of_mem _ member)

/-- One event hands out a record, or marks the one that was handed out, or does neither. -/
theorem unmarked_next (moved : first.next? event = some last) (noRequest : event ≠ .asked) :
    first.unmarked ++ event.handed?.toList = event.marked?.toList ++ last.unmarked := by
  cases event with
  | asked => exact absurd rfl noRequest
  | handed record =>
    simp only [next?, Option.ite_none_right_eq_some, Option.some.injEq] at moved
    obtain ⟨rfl, rfl⟩ := moved
    rfl
  | handled record succeeded =>
    simp only [next?, Option.ite_none_right_eq_some, Option.some.injEq] at moved
    obtain ⟨rfl, rfl⟩ := moved
    rfl
  | marked record =>
    simp only [next?, Option.ite_none_right_eq_some, Option.some.injEq] at moved
    obtain ⟨rfl, rfl⟩ := moved
    rfl
  | began | ended | released | stopped =>
    simp only [next?, Option.ite_none_left_eq_some, Option.some.injEq] at moved
    obtain ⟨-, rfl⟩ := moved
    simp [MemberEvent.handed?, MemberEvent.marked?]

theorem filterMap_cons_toList (read? : MemberEvent → Option Record) (event : MemberEvent)
    (events : List MemberEvent) :
    (event :: events).filterMap read? = (read? event).toList ++ events.filterMap read? := by
  cases found : read? event <;> simp [found]

/-- What was handed out has been marked, but for the record that is still worked on. -/
theorem handed_eq_marked_append (ran : events.foldlM next? first = some last)
    (noRequest : .asked ∉ events) :
    first.unmarked ++ events.filterMap MemberEvent.handed? =
      events.filterMap MemberEvent.marked? ++ last.unmarked := by
  induction events generalizing first with
  | nil =>
    cases ran
    simp
  | cons event rest ih =>
    rw [List.foldlM_cons] at ran
    obtain ⟨next, moved, ranRest⟩ := Option.bind_eq_some_iff.mp ran
    rw [List.mem_cons, not_or] at noRequest
    have headPart := unmarked_next moved (Ne.symm noRequest.1)
    have restPart := ih ranRest noRequest.2
    calc
      first.unmarked ++ (event :: rest).filterMap MemberEvent.handed? =
          (first.unmarked ++ event.handed?.toList) ++ rest.filterMap MemberEvent.handed? := by
        rw [List.append_assoc, filterMap_cons_toList]
      _ = event.marked?.toList ++ (next.unmarked ++ rest.filterMap MemberEvent.handed?) := by
        rw [headPart, List.append_assoc]
      _ = (event :: rest).filterMap MemberEvent.marked? ++ last.unmarked := by
        rw [restPart, filterMap_cons_toList, List.append_assoc]

/-- Before the first session nothing is done with records. -/
theorem away_of_noRequest (ran : events.foldlM next? .away = some last)
    (noRequest : .asked ∉ events) : ∀ event ∈ events, event.isWork = false := by
  induction events with
  | nil => simp
  | cons event rest ih =>
    rw [List.foldlM_cons] at ran
    obtain ⟨next, moved, ranRest⟩ := Option.bind_eq_some_iff.mp ran
    rw [List.mem_cons, not_or] at noRequest
    have still : event.isWork = false ∧ next = .away := by
      cases event with
      | asked => exact absurd rfl noRequest.1
      | handed | handled | marked => simp [next?] at moved
      | began | ended | released | stopped =>
        simp only [next?, Option.ite_none_left_eq_some, Option.some.injEq] at moved
        exact ⟨rfl, moved.2.symm⟩
    rw [still.2] at ranRest
    intro other isOther
    rcases List.mem_cons.mp isOther with rfl | later
    · exact still.1
    · exact ih ranRest noRequest.2 other later

end WorkProgress

section Sessions

variable {history : List MemberEvent} {holds : List MemberEvent → List MemberEvent → Prop}

theorem inEverySession_nil : InEverySession [] holds := by
  intro earlier events later split
  simp at split

/-- The last event of a history stands behind the events of a session, or among them, or it is the
request that opens the session. -/
private theorem split_concat {event : MemberEvent} {earlier events later : List MemberEvent}
    (split : history ++ [event] = earlier ++ .asked :: events ++ later) :
    (∃ before, history = earlier ++ .asked :: events ++ before) ∨
      (∃ before, events = before ++ [event] ∧ history = earlier ++ .asked :: before) ∨
        (events = [] ∧ event = .asked ∧ earlier = history) := by
  induction later using List.reverseRecOn with
  | append_singleton before last _ =>
    rw [← List.append_assoc] at split
    exact .inl ⟨before, (List.append_inj' split rfl).1⟩
  | nil =>
    rw [List.append_nil] at split
    induction events using List.reverseRecOn with
    | nil =>
      obtain ⟨same, isRequest⟩ := List.append_inj' split rfl
      exact .inr (.inr ⟨rfl, (List.singleton_inj.mp isRequest), same.symm⟩)
    | append_singleton before last _ =>
      rw [← List.cons_append, ← List.append_assoc] at split
      obtain ⟨same, sameLast⟩ := List.append_inj' split rfl
      obtain rfl := List.singleton_inj.mp sameLast
      exact .inr (.inl ⟨before, rfl, same⟩)

theorem InEverySession.concat (every : InEverySession history holds) {event : MemberEvent}
    (opens : event = .asked → holds history [])
    (grows : ∀ earlier events, history = earlier ++ .asked :: events → .asked ∉ events →
      holds earlier events → holds earlier (events ++ [event])) :
    InEverySession (history ++ [event]) holds := by
  intro earlier events later split noRequest
  rcases split_concat split with ⟨before, whole⟩ | ⟨before, rfl, whole⟩ | ⟨rfl, isRequest, rfl⟩
  · exact every earlier events before whole noRequest
  · have noneBefore : MemberEvent.asked ∉ before := fun inside =>
      noRequest (List.mem_append_left _ inside)
    exact grows earlier before whole noneBefore
      (every earlier before [] (by rw [whole, List.append_nil]) noneBefore)
  · exact opens isRequest

/-- Events that make no difference go on with the last session. -/
theorem InEverySession.append (every : InEverySession history holds) {new : List MemberEvent}
    (noRequest : .asked ∉ new)
    (indifferent : ∀ event ∈ new, ∀ earlier events, holds earlier events →
      holds earlier (events ++ [event])) :
    InEverySession (history ++ new) holds := by
  induction new using List.reverseRecOn with
  | nil => rwa [List.append_nil]
  | append_singleton before last ih =>
    rw [← List.append_assoc]
    refine InEverySession.concat (ih ?_ ?_) ?_ ?_
    · exact fun inside => noRequest (List.mem_append_left _ inside)
    · exact fun event isEvent => indifferent event (List.mem_append_left _ isEvent)
    · rintro rfl
      exact absurd (List.mem_append_right _ (List.mem_singleton_self _)) noRequest
    · intro earlier events _ _ held
      have isLast : last ∈ before ++ [last] :=
        List.mem_append_right _ (List.mem_singleton_self _)
      exact indifferent last isLast earlier events held

end Sessions

/-- What the phase of a member says about the progress of the worker. A call that was cut short is
still open, until the next session is asked for. -/
def MemberPhase.Agrees (progress : WorkProgress) : MemberPhase → Prop
  | .joining _ => progress = .free
  | .waiting _ _ => progress = .free
  | .working _ record _ => progress = .called record
  | _ => progress.isReturned = false

theorem MemberPhase.Agrees.settled {progress : WorkProgress} {phase : MemberPhase}
    (agrees : phase.Agrees progress) : progress.isReturned = false := by
  cases phase with
  | joining | waiting | working => rw [show progress = _ from agrees]; rfl
  | outside | deciding | idling | pausing | stopped => exact agrees

/-- The last session of the history is the given one of the script, and these records of it are
still to come. -/
def Serving (script : List Session) (history : List MemberEvent) (session : Session)
    (rest : List Record) : Prop :=
  ∃ earlier events, history = earlier ++ .asked :: events ∧ .asked ∉ events ∧
    script[earlier.count .asked]? = some session ∧
      events.filterMap MemberEvent.handed? ++ rest = session.log

/-- A history has one last request. -/
theorem last_request_unique {history first second before since : List MemberEvent}
    (split : history = first ++ .asked :: second) (noneSecond : .asked ∉ second)
    (other : history = before ++ .asked :: since) (noneSince : .asked ∉ since) :
    before = first ∧ since = second := by
  rw [split] at other
  rcases List.append_eq_append_iff.mp other with ⟨middle, rfl, rest⟩ | ⟨middle, rfl, rest⟩
  · cases middle with
    | nil => exact ⟨List.append_nil _, (List.cons.inj rest).2.symm⟩
    | cons head tail =>
      rw [List.cons_append, List.cons.injEq] at rest
      exact absurd (by rw [rest.2]; simp) noneSecond
  · cases middle with
    | nil => exact ⟨(List.append_nil _).symm, (List.cons.inj rest).2⟩
    | cons head tail =>
      rw [List.cons_append, List.cons.injEq] at rest
      exact absurd (by rw [rest.2]; simp) noneSince

theorem Serving.append {script : List Session} {history new : List MemberEvent} {session : Session}
    {rest : List Record} (serving : Serving script history session rest)
    (noRequest : .asked ∉ new) {later : List Record}
    (handed : new.filterMap MemberEvent.handed? ++ later = rest) :
    Serving script (history ++ new) session later := by
  obtain ⟨earlier, events, rfl, noneBefore, found, records⟩ := serving
  refine ⟨earlier, events ++ new, by simp, ?_, found, ?_⟩
  · intro inside
    exact (List.mem_append.mp inside).elim noneBefore noRequest
  · rw [List.filterMap_append, List.append_assoc, handed, records]

/-- The records that the phase of a member still expects of its session. -/
def MemberPhase.Expects (script : List Session) (history : List MemberEvent) : MemberPhase → Prop
  | .joining session => Serving script history session session.log
  | .waiting session rest => Serving script history session rest
  | .working session _ rest => Serving script history session rest
  | _ => True

namespace Member

variable {ω : Type} {work : Record → ω → Bool × ω} {script : List Session} {member next : Member ω}

theorem IsAside.handed? {event : MemberEvent} (isAside : IsAside event) : event.handed? = none := by
  cases event with
  | handed => cases isAside.1
  | asked | began | handled | marked | ended | released | stopped => rfl

/-- What holds of a member between any two moves. -/
structure Orderly (script : List Session) (member : Member ω) : Prop where
  progress : ∃ progress, member.history.foldlM WorkProgress.next? .away = some progress ∧
    member.phase.Agrees progress
  sessions : member.sessions = script.drop (member.history.count .asked)
  expects : member.phase.Expects script member.history
  handed : InEverySession member.history fun earlier events =>
    events.filterMap MemberEvent.handed? <+: logOfSession script (earlier.count .asked)

theorem orderly_initial (script : List Session) (worker : ω) :
    Orderly script (.initial script worker) where
  progress := ⟨.away, rfl, rfl⟩
  sessions := rfl
  expects := trivial
  handed := inEverySession_nil

theorem prefix_indifferent {event : MemberEvent} (notHanded : event.handed? = none)
    (earlier events : List MemberEvent)
    (held : events.filterMap MemberEvent.handed? <+: logOfSession script (earlier.count .asked)) :
    (events ++ [event]).filterMap MemberEvent.handed? <+:
      logOfSession script (earlier.count .asked) := by
  rwa [List.filterMap_append, List.filterMap_cons_none notHanded, List.filterMap_nil,
    List.append_nil]

theorem Orderly.aside (orderly : Orderly script member) {events : List MemberEvent}
    (history : next.history = member.history ++ events)
    (isAside : ∀ event ∈ events, IsAside event)
    (phase : next.phase = member.phase ∨ next.phase ∈ [.deciding, .pausing, .stopped])
    (sessions : next.sessions = member.sessions) : Orderly script next := by
  have noRequest : MemberEvent.asked ∉ events := fun inside => (isAside _ inside).2 rfl
  obtain ⟨progress, ran, agrees⟩ := orderly.progress
  refine ⟨⟨progress, ?_, ?_⟩, ?_, ?_, ?_⟩
  · rw [history, List.foldlM_append, ran]
    exact WorkProgress.foldlM_aside isAside agrees.settled
  · rcases phase with same | elsewhere
    · rwa [same]
    · simp only [List.mem_cons, List.not_mem_nil, or_false] at elsewhere
      rcases elsewhere with same | same | same <;> (rw [same]; exact agrees.settled)
  · rw [sessions, orderly.sessions, history, List.count_append,
      List.count_eq_zero_of_not_mem noRequest, Nat.add_zero]
  · rcases phase with same | elsewhere
    · have nothing : events.filterMap MemberEvent.handed? = [] :=
        List.filterMap_eq_nil_iff.mpr fun event isEvent => (isAside event isEvent).handed?
      have expects := orderly.expects
      rw [same, history]
      cases reached : member.phase with
      | joining session | waiting session rest | working session record rest =>
        rw [reached] at expects
        exact Serving.append expects noRequest (by rw [nothing, List.nil_append])
      | outside | deciding | idling | pausing | stopped => trivial
    · simp only [List.mem_cons, List.not_mem_nil, or_false] at elsewhere
      rcases elsewhere with same | same | same <;> (rw [same]; trivial)
  · rw [history]
    exact orderly.handed.append noRequest fun event isEvent =>
      prefix_indifferent (isAside event isEvent).handed?

theorem Orderly.asked (orderly : Orderly script member)
    (history : next.history = member.history ++ [.asked])
    (sessions : member.sessions = [] ∧ next.sessions = [] ∧ next.phase = .idling ∨
      ∃ session, member.sessions = session :: next.sessions ∧ next.phase = .joining session) :
    Orderly script next := by
  obtain ⟨progress, ran, agrees⟩ := orderly.progress
  have counted : next.history.count .asked = member.history.count .asked + 1 := by
    rw [history, List.count_append]
    rfl
  have ranNext : next.history.foldlM WorkProgress.next? .away = some .free := by
    rw [history, List.foldlM_append, ran]
    simp [WorkProgress.next?, agrees.settled]
  have handed : InEverySession next.history fun earlier events =>
      events.filterMap MemberEvent.handed? <+: logOfSession script (earlier.count .asked) := by
    rw [history]
    refine orderly.handed.concat (fun _ => List.nil_prefix) ?_
    intro earlier events _ _ held
    exact prefix_indifferent rfl earlier events held
  have left := orderly.sessions
  rcases sessions with ⟨none, noneLeft, idles⟩ | ⟨session, some, joins⟩
  · refine ⟨⟨.free, ranNext, by rw [idles]; rfl⟩, ?_, by rw [idles]; trivial, handed⟩
    rw [noneLeft, counted, ← List.drop_drop, ← left, none, List.drop_nil]
  · rw [some] at left
    have found : script[member.history.count .asked]? = Option.some session := by
      have head := congrArg List.head? left
      rwa [List.head?_cons, List.head?_drop, eq_comm] at head
    refine ⟨⟨.free, ranNext, by rw [joins]; rfl⟩, ?_, ?_, handed⟩
    · rw [counted, ← List.drop_drop, ← left]
      rfl
    · rw [joins, history]
      exact ⟨member.history, [], rfl, by simp, found, rfl⟩

/-- A move leaves a member orderly. -/
theorem Orderly.effect (orderly : Orderly script member) (effect : Effect work member next) :
    Orderly script next := by
  cases effect with
  | aside events history isAside phase sessions =>
    exact orderly.aside history isAside phase sessions
  | asked history sessions => exact orderly.asked history sessions
  | began session phase admitted history nextPhase sessions =>
    have isAside : ∀ event ∈ [MemberEvent.began next.generation], IsAside event := by
      intro event isEvent
      rw [List.mem_singleton.mp isEvent]
      exact ⟨rfl, nofun⟩
    obtain ⟨progress, ran, agrees⟩ := orderly.progress
    have expects := orderly.expects
    have records : session.log = session.records := by rw [Session.log, admitted]
    rw [phase] at agrees expects
    refine ⟨⟨progress, ?_, by rw [nextPhase]; exact agrees⟩, ?_, ?_, ?_⟩
    · rw [history, List.foldlM_append, ran]
      exact WorkProgress.foldlM_aside isAside agrees.settled
    · rw [sessions, orderly.sessions, history, List.count_append]
      rfl
    · rw [nextPhase, history, ← records]
      exact Serving.append expects (by simp) rfl
    · rw [history]
      exact orderly.handed.append (by simp) fun event isEvent =>
        prefix_indifferent (isAside event isEvent).handed?
  | handed session record rest phase history nextPhase sessions =>
    obtain ⟨progress, ran, agrees⟩ := orderly.progress
    have expects := orderly.expects
    rw [phase] at agrees expects
    obtain rfl : progress = .free := agrees
    refine ⟨⟨.called record, ?_, by rw [nextPhase]; rfl⟩, ?_, ?_, ?_⟩
    · rw [history, List.foldlM_append, ran]
      rfl
    · rw [sessions, orderly.sessions, history, List.count_append]
      rfl
    · rw [nextPhase, history]
      exact Serving.append expects (by simp) rfl
    · rw [history]
      refine orderly.handed.concat nofun ?_
      -- The session that goes on is the one of the phase, so the record is the next of its log.
      intro earlier events whole noRequest _
      obtain ⟨before, since, split, noneSince, found, records⟩ := expects
      obtain ⟨rfl, rfl⟩ := last_request_unique whole noRequest split noneSince
      refine ⟨rest, ?_⟩
      rw [logOfSession, found, Option.map_some, Option.getD_some, ← records,
        List.filterMap_append, List.append_assoc]
      rfl
  | completed session record rest phase history nextPhase sessions =>
    obtain ⟨progress, ran, agrees⟩ := orderly.progress
    have expects := orderly.expects
    rw [phase] at agrees expects
    obtain rfl : progress = .called record := agrees
    refine ⟨⟨.free, ?_, by rw [nextPhase]; rfl⟩, ?_, ?_, ?_⟩
    · rw [history, List.foldlM_append, ran]
      simp [WorkProgress.next?]
    · rw [sessions, orderly.sessions, history, List.count_append]
      rfl
    · rw [nextPhase, history]
      exact Serving.append expects (by simp) rfl
    · rw [history]
      refine orderly.handed.append (by simp) fun event isEvent => ?_
      rcases List.mem_cons.mp isEvent with rfl | isLast
      · exact prefix_indifferent rfl
      · rw [List.mem_singleton.mp isLast]
        exact prefix_indifferent rfl

/-- Every schedule leaves a member orderly. -/
theorem orderly_moveAll (work : Record → ω → Bool × ω) (script : List Session) (worker : ω)
    (schedule : List MemberMove) :
    Orderly script ((Member.initial script worker).moveAll work schedule) := by
  induction schedule using List.reverseRecOn with
  | nil => exact orderly_initial script worker
  | append_singleton schedule last ih =>
    rw [moveAll_concat]
    exact ih.effect (effect_move work _ last)

end Member

end EventCorrelation
