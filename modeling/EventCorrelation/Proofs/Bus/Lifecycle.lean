import EventCorrelation.Proofs.Bus.Moves

/-!
# Lifecycles of producers

What a producer does over its whole life, whatever its transport is and in whichever order it is
used. The transport is given back once; before that it gets the values as they are, and afterwards
nothing. Each drain is handed out once.
-/

namespace EventCorrelation

variable {σ : Type}

theorem TransportCall.encodings_append (calls more : List TransportCall) :
    encodings (calls ++ more) = encodings calls + encodings more := by
  induction calls with
  | nil => exact (Nat.zero_add _).symm
  | cons call rest ih => rw [List.cons_append, encodings, encodings, ih, Nat.add_assoc]

namespace ProducerMove

variable {move : ProducerMove} {call : TransportCall} {schedule : List ProducerMove}

theorem isClose_of_call? (makes : move.call? = some call) :
    call.isClose = true ↔ move = .close := by
  cases move <;> cases makes <;> simp [TransportCall.isClose]

theorem calls_cons_of_ne (notClose : move ≠ .close) (rest : List ProducerMove) :
    calls (move :: rest) = move.call?.toList ++ calls rest := by
  cases move with
  | close => exact absurd rfl notClose
  | _ => rfl

theorem exists_of_mem_calls (isCall : call ∈ calls schedule) :
    ∃ move ∈ schedule, move.call? = some call := by
  induction schedule with
  | nil => cases isCall
  | cons move rest ih =>
    by_cases closes : move = .close
    · subst closes
      cases List.mem_singleton.mp isCall
      exact ⟨.close, List.mem_cons_self, rfl⟩
    · rw [calls_cons_of_ne closes, List.mem_append, Option.mem_toList] at isCall
      rcases isCall with here | later
      · exact ⟨move, List.mem_cons_self, here⟩
      · obtain ⟨other, isLater, makes⟩ := ih later
        exact ⟨other, List.mem_cons_of_mem _ isLater, makes⟩

/-- The transport is closed once if the schedule closes at all. -/
theorem countP_isClose_calls (schedule : List ProducerMove) :
    (calls schedule).countP (·.isClose) = if .close ∈ schedule then 1 else 0 := by
  induction schedule with
  | nil => rfl
  | cons move rest ih =>
    by_cases closes : move = .close
    · subst closes
      rw [if_pos List.mem_cons_self]
      rfl
    · have here : move.call?.toList.countP (·.isClose) = 0 := by
        rw [List.countP_eq_zero]
        intro call makes isClose
        exact closes ((isClose_of_call? (Option.mem_toList.mp makes)).mp isClose)
      rw [calls_cons_of_ne closes, List.countP_append, here, ih, Nat.zero_add]
      simp [Ne.symm closes]

/-- The values that a transport can encode are those that are published before the schedule closes, each
of them once. -/
theorem encodings_calls (schedule : List ProducerMove) :
    TransportCall.encodings (calls schedule) =
      (schedule.takeWhile (· ≠ .close)).countP (·.isPublishing) := by
  induction schedule with
  | nil => rfl
  | cons move rest ih =>
    by_cases closes : move = .close
    · subst closes
      rfl
    · have here : TransportCall.encodings move.call?.toList = if move.isPublishing then 1 else 0 := by
        cases move <;> rfl
      rw [calls_cons_of_ne closes, TransportCall.encodings_append, here, ih,
        List.takeWhile_cons_of_pos (by simpa using closes), List.countP_cons, Nat.add_comm]

/-- Nothing is asked of the transport once it is closed. -/
theorem nothing_after_close {before after : List TransportCall}
    (split : calls schedule = before ++ .close :: after) : after = [] := by
  induction schedule generalizing before with
  | nil => simp [calls] at split
  | cons move rest ih =>
    by_cases closes : move = .close
    · subst closes
      cases before with
      | nil => cases split; rfl
      | cons _ before => simp [calls] at split
    · rw [calls_cons_of_ne closes] at split
      cases makes : move.call? with
      | none =>
        rw [makes] at split
        exact ih split
      | some call =>
        rw [makes] at split
        cases before with
        | nil =>
          cases split
          exact absurd ((isClose_of_call? makes).mp rfl) closes
        | cons _ before => exact ih (List.cons.inj split).2

end ProducerMove

namespace ReportLine

variable {α : Type}

theorem drain_push (report : α) (line : ReportLine α) : (line.push report).drain = line.drain := by
  unfold push
  split <;> rfl

theorem notStarted_requestStop (line : ReportLine α) :
    line.requestStop.drain = .notStarted ↔ line.drain = .notStarted := by
  cases drain : line.drain <;> simp [requestStop, drain]

theorem notStarted_step? (mayReport : Bool) (line : ReportLine α) :
    ((line.step? mayReport).getD line).drain = .notStarted ↔ line.drain = .notStarted := by
  cases drain : line.drain with
  | notStarted | ended => simp [step?, drain]
  | running count stopping =>
    rcases step?_running mayReport drain with ⟨_, _, _, steps⟩ | ⟨_, steps⟩
    · simp [steps]
    · rw [steps]
      split <;> simp [drain]

end ReportLine

namespace Producer

section Drains

variable {kind : ReportKind} {producer : Producer σ}

theorem startDrain_of_notStarted (waits : (producer.line kind).drain = .notStarted) :
    ∃ started, producer.startDrain kind = (.ok (), started) ∧
      started.line kind = { producer.line kind with drain := .running 0 false } := by
  rcases start?_line kind producer with ⟨refused, -⟩ | ⟨started, accepted, starts⟩
  · simp [ReportLine.start?, waits] at refused
  · refine ⟨started, accepted, ?_⟩
    rw [ReportLine.start?, waits] at starts
    exact (Option.some.inj starts).symm

theorem startDrain_of_started (started : (producer.line kind).drain ≠ .notStarted) :
    producer.startDrain kind = (.error (.alreadyDraining kind.title), producer) := by
  rcases start?_line kind producer with ⟨-, refused⟩ | ⟨_, -, starts⟩
  · exact refused
  · unfold ReportLine.start? at starts
    split at starts
    · next waits => exact absurd waits started
    · cases starts

theorem drain_sendAsync (topic : String) (key : Option String) (content : Content)
    (producer : Producer σ) :
    ((producer.sendAsync topic key content).line kind).drain = (producer.line kind).drain := by
  unfold sendAsync
  split
  · rfl
  · split
    · rfl
    · dsimp only
      split
      · cases kind <;> rfl
      · rw [line_file]
        split
        · rw [ReportLine.drain_push]
          cases kind <;> rfl
        · cases kind <;> rfl

/-- A drain is started by its own move only. -/
theorem notStarted_move (kind : ReportKind) (producer : Producer σ) (move : ProducerMove) :
    ((producer.move move).line kind).drain = .notStarted ↔
      (producer.line kind).drain = .notStarted ∧ move ≠ .startDrain kind := by
  cases move with
  | send topic key content =>
    rw [Producer.move, line_send]
    simp
  | sendAsync topic key content =>
    rw [Producer.move, drain_sendAsync]
    simp
  | close =>
    rw [Producer.move, line_close]
    simp
  | startDrain other =>
    by_cases same : other = kind
    · subst same
      suffices ((producer.startDrain other).2.line other).drain ≠ .notStarted by
        simpa [Producer.move] using this
      by_cases waits : (producer.line other).drain = .notStarted
      · obtain ⟨started, accepted, line⟩ := startDrain_of_notStarted waits
        rw [accepted, line]
        simp
      · rwa [startDrain_of_started waits]
    · rw [Producer.move, (line_of_ne same producer).1]
      simp [same]
  | requestStop other =>
    by_cases same : other = kind
    · subst same
      rw [Producer.move, line_requestStop, ReportLine.notStarted_requestStop]
      simp
    · rw [Producer.move, (line_of_ne same producer).2.1]
      simp
  | stepDrain other =>
    by_cases same : other = kind
    · subst same
      rw [Producer.move, line_stepDrain, ReportLine.notStarted_step?]
      simp
    · rw [Producer.move, (line_of_ne same producer).2.2]
      simp

theorem notStarted_moveAll (kind : ReportKind) (schedule : List ProducerMove)
    (producer : Producer σ) :
    ((producer.moveAll schedule).line kind).drain = .notStarted ↔
      (producer.line kind).drain = .notStarted ∧ .startDrain kind ∉ schedule := by
  induction schedule generalizing producer with
  | nil => simp [moveAll]
  | cons move rest ih =>
    rw [moveAll_cons, ih, notStarted_move, List.mem_cons, not_or, and_assoc, @ne_comm _ move]

theorem handedOut_eq (kind : ReportKind) (schedule : List ProducerMove) (producer : Producer σ) :
    producer.handedOut kind schedule =
      if (producer.line kind).drain = .notStarted ∧ .startDrain kind ∈ schedule then 1 else 0 := by
  induction schedule generalizing producer with
  | nil => simp [handedOut]
  | cons move rest ih =>
    rw [handedOut, ih]
    simp only [notStarted_move]
    by_cases starts : move = .startDrain kind
    · subst starts
      by_cases waits : (producer.line kind).drain = .notStarted
      · obtain ⟨_, accepted, -⟩ := startDrain_of_notStarted waits
        simp [waits, accepted, Except.isOk, Except.toBool]
      · simp [waits, startDrain_of_started waits, Except.isOk, Except.toBool]
    · simp [starts, Ne.symm starts]

end Drains

section Publishing

variable {producer : Producer σ}

/-- A closed producer does nothing with a value, and is not closed again. -/
theorem move_of_closed (closed : producer.isClosed = true) (topic : String) (key : Option String)
    (content : Content) :
    producer.send topic key content = (.error .closed, producer) ∧
      producer.sendAsync topic key content = producer ∧ producer.close = (.ok (), producer) := by
  simp [send, sendAsync, close, closed]

theorem move_of_disabled (isOpen : producer.isClosed = false) (disabled : producer.transport = none)
    (topic : String) (key : Option String) (content : Content) :
    producer.send topic key content = (.ok none, producer) ∧
      producer.sendAsync topic key content = producer := by
  simp [send, sendAsync, isOpen, disabled]

/-- The state of a transport that is closed or absent stays. -/
theorem state_move_of_idle (idle : producer.isClosed = true ∨ producer.transport = none)
    (move : ProducerMove) : (producer.move move).state = producer.state := by
  cases move with
  | send topic key content =>
    rcases idle with closed | disabled
    · simp [Producer.move, send, closed]
    · simp only [Producer.move, send, disabled]
      split <;> rfl
  | sendAsync topic key content =>
    rcases idle with closed | disabled
    · simp [Producer.move, sendAsync, closed]
    · simp only [Producer.move, sendAsync, disabled]
      split <;> rfl
  | close =>
    rcases idle with closed | disabled
    · simp [Producer.move, close, closed]
    · simp only [Producer.move, close, disabled]
      split <;> rfl
  | startDrain | requestStop | stepDrain =>
    exact (keepsClient_of_drain (by rfl) producer).state

theorem state_moveAll_of_idle (idle : producer.isClosed = true ∨ producer.transport = none)
    (schedule : List ProducerMove) : (producer.moveAll schedule).state = producer.state := by
  induction schedule generalizing producer with
  | nil => rfl
  | cons move rest ih =>
    have stillIdle : (producer.move move).isClosed = true ∨ (producer.move move).transport = none :=
      idle.imp (isClosed_move_of_closed · move) (producer.client_move move).1.trans
    rw [moveAll_cons, ih stillIdle, state_move_of_idle idle]

end Publishing

section Tracing

variable {transport : Transport σ} {producer : Producer (σ × List TransportCall)}

theorem noted_move (traced : producer.transport = some transport.traced)
    (isOpen : producer.isClosed = false) (move : ProducerMove) :
    (producer.move move).state.2 = producer.state.2 ++ move.call?.toList := by
  cases move with
  | send topic key content =>
    simp [Producer.move, send, traced, isOpen, Transport.traced, ProducerMove.call?]
  | sendAsync topic key content =>
    simp only [Producer.move, sendAsync, traced, isOpen, Transport.traced]
    split
    · contradiction
    · split <;> simp [ProducerMove.call?]
  | close => simp [Producer.move, close, traced, isOpen, Transport.traced, ProducerMove.call?]
  | startDrain | requestStop | stepDrain =>
    exact (congrArg Prod.snd (keepsClient_of_drain (by rfl) producer).state).trans
      (List.append_nil _).symm

/-- The calls of a whole schedule: one for each of its moves, until one of them closes. -/
theorem noted_moveAll (traced : producer.transport = some transport.traced)
    (isOpen : producer.isClosed = false) (schedule : List ProducerMove) :
    (producer.moveAll schedule).state.2 = producer.state.2 ++ ProducerMove.calls schedule := by
  induction schedule generalizing producer with
  | nil => exact (List.append_nil _).symm
  | cons move rest ih =>
    obtain ⟨sameTransport, isClosed⟩ := producer.client_move move
    have noted := noted_move traced isOpen move
    rw [moveAll_cons]
    by_cases closes : move = .close
    · subst closes
      rw [state_moveAll_of_idle (.inl (isClosed.mpr (.inr rfl))), noted]
      rfl
    · have stillOpen : (producer.move move).isClosed = false := by
        simpa [isOpen, closes] using isClosed
      rw [ih (sameTransport.trans traced) stillOpen, noted, ProducerMove.calls_cons_of_ne closes,
        List.append_assoc]

theorem mayReport_untraced {transport : Option (Transport σ)}
    (traced : producer.transport = transport.map .traced) :
    (producer.untraced transport).mayReport = producer.mayReport := by
  rw [mayReport, mayReport, traced]
  cases transport <;> rfl

/-- Noting the calls of the transport changes nothing else. -/
theorem untraced_move {transport : Option (Transport σ)}
    (traced : producer.transport = transport.map .traced) (move : ProducerMove) :
    (producer.move move).untraced transport = (producer.untraced transport).move move := by
  have reports := mayReport_untraced traced
  obtain ⟨_, ⟨state, noted⟩, isClosed, successes, failures⟩ := producer
  subst traced
  cases move with
  | send topic key content => cases isClosed <;> cases transport <;> rfl
  | sendAsync topic key content =>
    cases isClosed with
    | true => rfl
    | false =>
      cases transport with
      | none => rfl
      | some transport =>
        cases enqueued : transport.enqueue ⟨topic, key, .ofContent content⟩ state with
        | mk report next =>
          rcases report with _ | _ | _ <;>
            simp [Producer.move, sendAsync, untraced, Transport.traced, enqueued, file]
  | close => cases isClosed <;> cases transport <;> rfl
  | startDrain kind =>
    cases kind with
    | successes =>
      cases starts : successes.start? <;> simp [Producer.move, startDrain, untraced, starts]
    | failures =>
      cases starts : failures.start? <;> simp [Producer.move, startDrain, untraced, starts]
  | requestStop kind => cases kind <;> rfl
  | stepDrain kind =>
    cases kind with
    | successes =>
      rw [Producer.move, Producer.move, stepDrain?, stepDrain?, reports]
      dsimp only [untraced]
      cases successes.step? _ <;> rfl
    | failures =>
      rw [Producer.move, Producer.move, stepDrain?, stepDrain?, reports]
      dsimp only [untraced]
      cases failures.step? _ <;> rfl

theorem untraced_moveAll {transport : Option (Transport σ)}
    (traced : producer.transport = transport.map .traced) (schedule : List ProducerMove) :
    (producer.moveAll schedule).untraced transport =
      (producer.untraced transport).moveAll schedule := by
  induction schedule generalizing producer with
  | nil => rfl
  | cons move rest ih =>
    rw [moveAll_cons, ih ((producer.client_move move).1.trans traced), untraced_move traced,
      moveAll_cons]

end Tracing

section Opening

variable (capacity : Nat) (transport : Option (Transport σ)) (state : σ)

theorem transport_opened : (opened capacity transport state).transport = transport := by
  cases transport <;> rfl

theorem state_opened : (opened capacity transport state).state = state := by
  cases transport <;> rfl

theorem isClosed_opened : (opened capacity transport state).isClosed = false := by
  cases transport <;> rfl

theorem drain_opened (kind : ReportKind) :
    ((opened capacity transport state).line kind).drain = .notStarted := by
  cases transport <;> cases kind <;> rfl

theorem untraced_opened :
    (opened capacity (transport.map .traced) (state, [])).untraced transport =
      opened capacity transport state := by
  cases transport <;> rfl

/-- The calls that reach the transport along a schedule, if there is one. -/
theorem noted_opened (schedule : List ProducerMove) :
    ((opened capacity (transport.map .traced) (state, [])).moveAll schedule).state.2 =
      if transport.isSome then ProducerMove.calls schedule else [] := by
  cases transport with
  | none => rw [state_moveAll_of_idle (.inr rfl)]; rfl
  | some transport =>
    have traced : (opened capacity (some transport.traced) (state, [])).transport =
        some transport.traced := rfl
    exact noted_moveAll traced rfl schedule

end Opening

/-- The life of a producer, over any transport or none, whatever it is made to do and in which
order. Noting what is asked of the transport changes nothing. The transport is asked once for every
value until the producer is closed; it gets the values as they are, since the producer never encodes
one. So the values that are encoded are at most those published before the first closing, each once,
and none without a transport. The transport is closed once if the producer is closed at all, and
afterwards nothing reaches it. From then on sending fails and does nothing, whatever the value is.
Without a transport sending does nothing
from the start, and has an empty answer until the producer is closed. The drain of each kind is
handed out once, before closing or after, and another attempt to start it fails and changes nothing.
-/
theorem closed_once_and_drained_once (capacity : Nat) (transport : Option (Transport σ)) (state : σ)
    (schedule : List ProducerMove) :
    let first := opened capacity transport state
    let producer := first.moveAll schedule
    let traced := (opened capacity (transport.map .traced) (state, [])).moveAll schedule
    let calls := traced.state.2
    traced.untraced transport = producer ∧
    calls = (if transport.isSome then ProducerMove.calls schedule else []) ∧
    calls.countP (·.isClose) = (if transport.isSome ∧ .close ∈ schedule then 1 else 0) ∧
    (∀ before after, calls = before ++ .close :: after → after = []) ∧
    (∀ call ∈ calls, ∀ record, call.record? = some record →
      record.value.runs = 0 ∧ ∃ content, record.value = .ofContent content) ∧
    TransportCall.encodings calls =
      (if transport.isSome then (schedule.takeWhile (· ≠ .close)).countP (·.isPublishing) else 0) ∧
    (.close ∈ schedule → ∀ topic key content,
      producer.send topic key content = (.error .closed, producer) ∧
        producer.sendAsync topic key content = producer ∧
        producer.close = (.ok (), producer)) ∧
    (transport = none → producer.state = state ∧
      (.close ∉ schedule → ∀ topic key content,
        producer.send topic key content = (.ok none, producer) ∧
          producer.sendAsync topic key content = producer)) ∧
    ∀ kind,
      first.handedOut kind schedule = (if .startDrain kind ∈ schedule then 1 else 0) ∧
      (.startDrain kind ∉ schedule → ∃ started,
        producer.startDrain kind = (.ok (), started) ∧
          started.line kind = { producer.line kind with drain := .running 0 false }) ∧
      (.startDrain kind ∈ schedule →
        producer.startDrain kind = (.error (.alreadyDraining kind.title), producer)) := by
  intro first producer traced calls
  have callsEq : calls = if transport.isSome then ProducerMove.calls schedule else [] :=
    noted_opened capacity transport state schedule
  have isClosed : producer.isClosed = true ↔ .close ∈ schedule := by
    rw [isClosed_moveAll, isClosed_opened]
    simp
  have notStarted (kind : ReportKind) :
      (producer.line kind).drain = .notStarted ↔ .startDrain kind ∉ schedule := by
    rw [notStarted_moveAll, drain_opened]
    simp
  refine ⟨?_, callsEq, ?_, fun before after split => ?_, fun call isCall record hands => ?_, ?_,
    fun closes => move_of_closed (isClosed.mpr closes), fun disabled => ⟨?_, fun staysOpen => ?_⟩,
    fun kind => ⟨?_, fun waits => ?_, fun started => ?_⟩⟩
  · rw [untraced_moveAll (transport_opened _ _ _), untraced_opened]
  · rw [callsEq]
    cases transport with
    | none => simp
    | some transport => simp [ProducerMove.countP_isClose_calls]
  · rw [callsEq] at split
    cases transport with
    | none => simp at split
    | some transport => exact ProducerMove.nothing_after_close split
  · rw [callsEq] at isCall
    cases transport with
    | none => cases isCall
    | some transport =>
      obtain ⟨move, -, makes⟩ := ProducerMove.exists_of_mem_calls isCall
      cases move <;> cases makes <;> cases hands <;> exact ⟨rfl, _, rfl⟩
  · rw [callsEq]
    cases transport with
    | none => rfl
    | some transport => exact ProducerMove.encodings_calls schedule
  · have idle : first.isClosed = true ∨ first.transport = none :=
      .inr ((transport_opened capacity transport state).trans disabled)
    rw [state_moveAll_of_idle idle, state_opened]
  · refine move_of_disabled ?_ ?_
    · rwa [← isClosed, Bool.not_eq_true] at staysOpen
    · rw [transport_moveAll, transport_opened, disabled]
  · rw [handedOut_eq, drain_opened]
    simp
  · exact startDrain_of_notStarted ((notStarted kind).mpr waits)
  · exact startDrain_of_started fun waits => (notStarted kind).mp waits started

/-- A value on either path, the second one too late. -/
def closingSchedule : List ProducerMove :=
  [.startDrain .failures, .sendAsync "builds" none (.json .null), .close,
    .send "builds" none (.broken "no text"), .close]

theorem closing_log_gets_one_value :
    let producer := (opened 1 (some MemoryLog.transport) (.empty none)).moveAll closingSchedule
    let traced := (opened 1 (some MemoryLog.transport.traced) (.empty none, [])).moveAll closingSchedule
    producer.state.records.length = 1 ∧ TransportCall.encodings traced.state.2 = 1 ∧
      (∀ content, producer.send "builds" none content = (.error .closed, producer)) ∧
      (producer.startDrain .failures).1 = .error (.alreadyDraining "failure reports") ∧
      (producer.startDrain .successes).1 = .ok () ∧
      ∀ content, (opened 1 none ()).send "builds" none content = (.ok none, opened 1 none ()) := by
  intro producer traced
  obtain ⟨-, -, -, -, -, encodings, closed, -, drains⟩ :=
    closed_once_and_drained_once 1 (some MemoryLog.transport) (.empty none) closingSchedule
  obtain ⟨-, -, -, -, -, -, -, disabled, -⟩ :=
    closed_once_and_drained_once 1 (none : Option (Transport Unit)) () []
  have closes : ProducerMove.close ∈ closingSchedule := by simp [closingSchedule]
  have startsFailures : ProducerMove.startDrain .failures ∈ closingSchedule := by
    simp [closingSchedule]
  have waits : ProducerMove.startDrain .successes ∉ closingSchedule := by simp [closingSchedule]
  obtain ⟨_, accepted, -⟩ := (drains .successes).2.1 waits
  refine ⟨rfl, encodings, fun content => (closed closes _ _ content).1, ?_, by rw [accepted],
    fun content => ((disabled rfl).2 List.not_mem_nil _ _ content).1⟩
  rw [(drains .failures).2.2 startsFailures]
  rfl

end Producer

end EventCorrelation
