import EventCorrelation.Proofs.Bus.Moves
import Mathlib.Data.List.Induction

/-!
# Delivery reports

Every record on the buffered path of an open producer brings one report, and none is lost from
sight: it is consumed, or it waits, or it was discarded because its line was full or its drain had
been stopped. A drain that is told to stop, or whose producer is closed, consumes what waits before
it ends.
-/

namespace EventCorrelation

namespace MemoryLog

theorem isOpen_append (record : OutboundRecord) (log : MemoryLog) :
    (log.append record).2.isOpen = log.isOpen := by
  unfold append
  split
  · rfl
  · split <;> rfl

/-- A record is appended just if its outcome is a success. -/
theorem append_cases (topic : String) (key : Option String) (content : Content) (log : MemoryLog) :
    (∃ delivered payload, (log.append ⟨topic, key, .ofContent content⟩).1 = .ok delivered ∧
      content.bytes = .ok payload ∧
      (log.append ⟨topic, key, .ofContent content⟩).2.records =
        log.records ++ [⟨topic, key, payload⟩]) ∨
    ∃ fault, (log.append ⟨topic, key, .ofContent content⟩).1 = .error fault ∧
      (log.append ⟨topic, key, .ofContent content⟩).2.records = log.records := by
  unfold append
  cases refusal : log.refusal with
  | some reason => exact .inr ⟨_, rfl, rfl⟩
  | none =>
    cases content with
    | json value => exact .inl ⟨_, _, rfl, rfl, rfl⟩
    | broken reason => exact .inr ⟨_, rfl, rfl⟩

end MemoryLog

namespace Producer

variable {producer : Producer MemoryLog} {kind : ReportKind}

/-- The producer is over a log in memory, which reports outcomes until the producer is closed. -/
structure Wired (producer : Producer MemoryLog) : Prop where
  transport : producer.transport = some MemoryLog.transport
  isOpen : producer.state.isOpen = !producer.isClosed

theorem Wired.mayReport (wired : producer.Wired) : producer.mayReport = !producer.isClosed := by
  rw [Producer.mayReport, wired.transport]
  exact wired.isOpen

theorem Wired.send_eq (wired : producer.Wired) (isOpen : producer.isClosed = false)
    (topic : String) (key : Option String) (content : Content) :
    (producer.send topic key content).2 =
      { producer with state := (producer.state.append ⟨topic, key, .ofContent content⟩).2 } := by
  simp [send, isOpen, wired.transport, MemoryLog.transport]

theorem Wired.sendAsync_eq (wired : producer.Wired) (isOpen : producer.isClosed = false)
    (topic : String) (key : Option String) (content : Content) :
    producer.sendAsync topic key content =
      { producer with
        state := (producer.state.append ⟨topic, key, .ofContent content⟩).2 }.file
          (.ofOutcome topic (producer.state.append ⟨topic, key, .ofContent content⟩).1) := by
  have reports : producer.state.isOpen = true := by rw [wired.isOpen, isOpen]; rfl
  simp [sendAsync, isOpen, wired.transport, MemoryLog.transport, MemoryLog.isOpen_append, reports]

/-- The client of the producer is as before. -/
structure SameClient (producer next : Producer MemoryLog) : Prop where
  transport : next.transport = producer.transport
  isClosed : next.isClosed = producer.isClosed
  isOpen : next.state.isOpen = producer.state.isOpen

theorem Wired.sameClient_move (wired : producer.Wired) {move : ProducerMove}
    (notClose : move ≠ .close) : SameClient producer (producer.move move) := by
  obtain ⟨transport, isClosed⟩ := producer.client_move move
  refine ⟨transport, Bool.eq_iff_iff.mpr (isClosed.trans (or_iff_left notClose)), ?_⟩
  cases move with
  | close => exact absurd rfl notClose
  | send topic key content =>
    cases isOpen : producer.isClosed with
    | true => simp [Producer.move, send, isOpen]
    | false =>
      rw [Producer.move, wired.send_eq isOpen]
      exact MemoryLog.isOpen_append _ _
  | sendAsync topic key content =>
    cases isOpen : producer.isClosed with
    | true => simp [Producer.move, sendAsync, isOpen]
    | false =>
      rw [Producer.move, wired.sendAsync_eq isOpen, state_file]
      exact MemoryLog.isOpen_append _ _
  | startDrain | requestStop | stepDrain =>
    exact congrArg MemoryLog.isOpen (keepsClient_of_drain (by rfl) producer).state

theorem Wired.close (wired : producer.Wired) : producer.close.2.Wired := by
  cases isClosed : producer.isClosed with
  | true => simpa [Producer.close, isClosed] using wired
  | false =>
    have closed : producer.close.2 =
        { producer with isClosed := true, state := { producer.state with isOpen := false } } := by
      simp [Producer.close, isClosed, wired.transport, MemoryLog.transport]
    rw [closed]
    exact ⟨wired.transport, rfl⟩

theorem Wired.move (wired : producer.Wired) (move : ProducerMove) : (producer.move move).Wired := by
  by_cases closes : move = .close
  · rw [closes]
    exact wired.close
  · obtain ⟨transport, isClosed, isOpen⟩ := wired.sameClient_move closes
    exact ⟨by rw [transport, wired.transport], by rw [isOpen, isClosed, wired.isOpen]⟩

theorem change_move (wired : producer.Wired) (kind : ReportKind) (move : ProducerMove) :
    ReportLine.Change kind producer.mayReport (producer.line kind) move
      ((producer.due move).filter (·.kind == kind)) ((producer.move move).line kind) := by
  cases move with
  | send topic key content =>
    rw [Producer.move, line_send]
    exact .aside (by simp)
  | sendAsync topic key content =>
    rw [Producer.move, due]
    cases isOpen : producer.isClosed with
    | true =>
      rw [sendAsync, if_pos isOpen]
      exact .aside (by simp)
    | false =>
      rw [wired.sendAsync_eq isOpen, line_file]
      rw [if_neg Bool.false_ne_true, List.filter_cons, List.filter_nil]
      simp only [beq_iff_eq]
      split
      · have reports : producer.mayReport = true := by rw [wired.mayReport, isOpen]; rfl
        have noStep : ProducerMove.sendAsync topic key content ≠ .stepDrain kind := by simp
        exact ReportLine.change_push noStep reports _ (producer.line kind)
      · exact .aside (by simp)
  | close =>
    rw [Producer.move, line_close]
    exact .aside (by simp)
  | startDrain started =>
    by_cases same : started = kind
    · subst same
      rcases start?_line started producer with ⟨-, refused⟩ | ⟨next, accepted, starts⟩
      · rw [Producer.move, refused]
        exact .aside (by simp)
      · rw [Producer.move, accepted]
        exact ReportLine.change_start starts
    · rw [Producer.move, (line_of_ne same producer).1]
      exact .aside (by simp)
  | requestStop stopped =>
    by_cases same : stopped = kind
    · subst same
      rw [Producer.move, line_requestStop]
      exact ReportLine.change_requestStop stopped producer.mayReport (producer.line stopped)
    · rw [Producer.move, (line_of_ne same producer).2.1]
      exact .aside (by simp)
  | stepDrain drain =>
    by_cases same : drain = kind
    · subst same
      rw [Producer.move, line_stepDrain]
      exact ReportLine.change_step drain producer.mayReport (producer.line drain)
    · rw [Producer.move, (line_of_ne same producer).2.2]
      refine .aside fun taken => same ?_
      cases taken
      rfl

theorem dueOf_cons (kind : ReportKind) (move : ProducerMove) (rest : List ProducerMove)
    (producer : Producer MemoryLog) :
    producer.dueOf kind (move :: rest) =
      (producer.due move).filter (·.kind == kind) ++ (producer.move move).dueOf kind rest := by
  rw [dueOf, dueAlong, List.filter_append]
  rfl

theorem dueOf_concat (kind : ReportKind) (schedule : List ProducerMove) (last : ProducerMove)
    (producer : Producer MemoryLog) :
    producer.dueOf kind (schedule ++ [last]) = producer.dueOf kind schedule ++
      ((producer.moveAll schedule).due last).filter (·.kind == kind) := by
  induction schedule generalizing producer with
  | nil => simp [dueOf, dueAlong, moveAll]
  | cons move rest ih =>
    rw [List.cons_append, dueOf_cons, ih, dueOf_cons, List.append_assoc]
    rfl

/-- What holds of a producer after a schedule. -/
structure Orderly (capacity : Nat) (first : Producer MemoryLog) (schedule : List ProducerMove)
    (producer : Producer MemoryLog) : Prop where
  wired : producer.Wired
  sound : ∀ kind, (producer.line kind).Sound capacity (.requestStop kind ∈ schedule)
    (producer.isClosed = true)
  accounts : ∀ kind, (producer.line kind).Accounts (first.dueOf kind schedule)

theorem orderly_moveAll (capacity : Nat) (refusal : Option String) (schedule : List ProducerMove) :
    let first := ofTransport capacity MemoryLog.transport (.empty refusal)
    Orderly capacity first schedule (first.moveAll schedule) := by
  intro first
  -- From the end, since whether a drain was told to stop looks back over the whole schedule.
  induction schedule using List.reverseRecOn with
  | nil =>
    refine ⟨⟨rfl, rfl⟩, fun kind => ?_, fun kind => ?_⟩
    · cases kind <;> exact ⟨rfl, Nat.zero_le _, nofun, nofun, nofun⟩
    · cases kind <;> exact ⟨[], [], .nil, rfl, rfl⟩
  | append_singleton schedule last ih =>
    obtain ⟨wired, sound, accounts⟩ := ih
    rw [moveAll_concat]
    refine ⟨wired.move last, fun kind => ?_, fun kind => ?_⟩
    · refine (sound kind).change (change_move wired kind last) ?_ ?_ ?_ ?_
      · exact List.mem_append_left _
      · exact fun isLast => List.mem_append_right _ (List.mem_singleton.mpr isLast.symm)
      · exact fun closed => isClosed_move_of_closed closed last
      · intro noReports
        rw [wired.mayReport, Bool.not_eq_false'] at noReports
        exact isClosed_move_of_closed noReports last
    · rw [dueOf_concat]
      exact (accounts kind).change (change_move wired kind last)

theorem ended_moveAll (wired : producer.Wired) {count : Nat}
    (ended : (producer.line kind).drain = .ended count) (later : List ProducerMove) :
    ((producer.moveAll later).line kind).drain = .ended count := by
  induction later generalizing producer with
  | nil => exact ended
  | cons move rest ih =>
    exact ih (wired.move move) (ReportLine.ended_change ended (change_move wired kind move))

theorem taken_le_moveAll (wired : producer.Wired) (kind : ReportKind) (later : List ProducerMove) :
    (producer.line kind).taken ≤ ((producer.moveAll later).line kind).taken := by
  induction later generalizing producer with
  | nil => exact Nat.le_refl _
  | cons move rest ih =>
    calc
      (producer.line kind).taken ≤ ((producer.move move).line kind).taken :=
        ReportLine.taken_le_change (change_move wired kind move)
      _ ≤ (((producer.move move).moveAll rest).line kind).taken := ih (wired.move move)

/-- A drain that has to end does so once it has taken more steps than there are reports for it. -/
theorem ends_moveAll (wired : producer.Wired) {count : Nat} {stopping : Bool}
    (running : (producer.line kind).drain = .running count stopping)
    (mustEnd : stopping = true ∨ producer.isClosed = true) {later : List ProducerMove}
    (enough : (producer.line kind).waiting.length + (producer.dueOf kind later).length <
      later.count (.stepDrain kind)) :
    ∃ countNow, ((producer.moveAll later).line kind).drain = .ended countNow := by
  -- The measure is what waits and what is still due: a step of the drain uses up one of these.
  induction later generalizing producer count stopping with
  | nil => cases enough
  | cons move rest ih =>
    have ends : (stopping || !producer.mayReport) = true := by
      rw [wired.mayReport, Bool.not_not, Bool.or_eq_true]
      exact mustEnd
    rcases ReportLine.running_change running ends (change_move wired kind move) with
      ⟨countNow, stoppingNow, runningNow, still, nearer⟩ | ⟨countNow, ended⟩
    · have mustEndNow : stoppingNow = true ∨ (producer.move move).isClosed = true :=
        mustEnd.imp still fun closed => isClosed_move_of_closed closed move
      apply ih (wired.move move) runningNow mustEndNow
      have split : (move :: rest).count (.stepDrain kind) =
          [move].count (.stepDrain kind) + rest.count (.stepDrain kind) := by
        rw [← List.count_append, List.singleton_append]
      rw [dueOf_cons, List.length_append, split] at enough
      omega
    · exact ⟨countNow, ended_moveAll (wired.move move) ended rest⟩

theorem drained?_eq (kind : ReportKind) (producer : Producer MemoryLog) :
    producer.drained? kind = (producer.line kind).result? := by
  cases kind <;> rfl

theorem drained?_of_ended {count : Nat} (ended : (producer.line kind).drain = .ended count) :
    producer.drained? kind = some count := by
  rw [drained?_eq, ReportLine.result?, ended]

theorem line_settle (kind : ReportKind) (producer : Producer MemoryLog) :
    producer.settle.line kind = (producer.line kind).settle producer.mayReport := by
  cases kind <;> exact (ReportLine.map_settle _ _ _).symm

section Collecting

variable {held : List ReportKind}

/-- Collecting the result of a drain that has to end gives all that was not discarded. -/
theorem join_eq (isHeld : kind ∈ held)
    (settles : (producer.settle.line kind).result? = some (producer.line kind).taken) :
    (AttendedProducer.join kind ⟨producer, held⟩).1 = .drained (producer.line kind).taken := by
  have holds : AttendedProducer.holds kind ⟨producer, held⟩ = true := by
    simpa [AttendedProducer.holds] using isHeld
  rw [AttendedProducer.join, if_pos holds]
  dsimp only
  rw [drained?_eq, settles]

theorem Orderly.join_eq {capacity : Nat} {first : Producer MemoryLog}
    {schedule : List ProducerMove} (orderly : Orderly capacity first schedule producer)
    (isClosed : producer.isClosed = true) (isHeld : kind ∈ held)
    (started : (producer.line kind).drain ≠ .notStarted) :
    (AttendedProducer.join kind ⟨producer, held⟩).1 = .drained (producer.line kind).taken := by
  apply Producer.join_eq isHeld
  rw [line_settle]
  apply (orderly.sound kind).result?_settle started
  intro count stopping _
  rw [orderly.wired.mayReport, isClosed]
  exact Bool.or_true stopping

theorem Orderly.stop_eq {capacity : Nat} {first : Producer MemoryLog}
    {schedule : List ProducerMove} (orderly : Orderly capacity first schedule producer)
    (isHeld : kind ∈ held) (started : (producer.line kind).drain ≠ .notStarted) :
    (AttendedProducer.stop kind ⟨producer, held⟩).1 = .drained (producer.line kind).taken := by
  obtain ⟨stillStarted, sameTaken, stopping⟩ := ReportLine.requestStop_started started
  have sound : (producer.line kind).requestStop.Sound capacity True True :=
    (orderly.sound kind).change (ReportLine.change_requestStop kind true _)
      (fun _ => trivial) (fun _ => trivial) (fun _ => trivial) (fun _ => trivial)
  rw [← line_requestStop] at stillStarted sameTaken stopping sound
  have holds : AttendedProducer.holds kind ⟨producer, held⟩ = true := by
    simpa [AttendedProducer.holds] using isHeld
  rw [AttendedProducer.stop, if_pos holds, ← sameTaken]
  apply Producer.join_eq isHeld
  rw [line_settle]
  apply sound.result?_settle stillStarted
  intro count stops running
  rw [stopping count stops running]
  rfl

end Collecting

/-- Whatever a producer over a log in memory is made to do, and in which order: the reports of each
kind that are due are all accounted for. A record on the buffered path is due one report, a success
if it was appended and a failure if not. A report is discarded only if its line is full or its drain
has been stopped. What an ended drain has consumed is all that was not discarded; so after closing,
that is what joining a drain gives. Stopping a drain gives all that it has consumed and all that
waits. While other things go on, a drain that has to end consumes no less, and ends as soon as it has
taken enough steps. -/
theorem reports_conserved (capacity : Nat) (refusal : Option String)
    (schedule : List ProducerMove) :
    let first := ofTransport capacity MemoryLog.transport (.empty refusal)
    let producer := first.moveAll schedule
    (∀ kind, (producer.line kind).Accounts (first.dueOf kind schedule)) ∧
    (∀ topic key content, producer.isClosed = false →
      ∃ report, producer.due (.sendAsync topic key content) = [report] ∧
        (report.kind = .successes ∧ (∃ payload, content.bytes = .ok payload ∧
          (producer.move (.sendAsync topic key content)).state.records =
            producer.state.records ++ [⟨topic, key, payload⟩]) ∨
        report.kind = .failures ∧
          (producer.move (.sendAsync topic key content)).state.records =
            producer.state.records)) ∧
    (∀ kind move,
      (producer.line kind).discarded < ((producer.move move).line kind).discarded →
      (producer.line kind).waiting.length = max capacity 1 ∨
        (producer.drained? kind).isSome ∧ .requestStop kind ∈ schedule) ∧
    (∀ kind count, producer.drained? kind = some count →
      count + (producer.line kind).discarded = (first.dueOf kind schedule).length) ∧
    (∀ kind held, kind ∈ held → (producer.line kind).drain ≠ .notStarted →
      (producer.isClosed = true → ∃ count,
        (AttendedProducer.join kind ⟨producer, held⟩).1 = .drained count ∧
          count + (producer.line kind).discarded = (first.dueOf kind schedule).length) ∧
      (AttendedProducer.stop kind ⟨producer, held⟩).1 =
        .drained ((producer.line kind).drained + (producer.line kind).waiting.length)) ∧
    ∀ kind count stopping later, (producer.line kind).drain = .running count stopping →
      (∀ countNow, (producer.moveAll later).drained? kind = some countNow →
        count + (producer.line kind).waiting.length ≤ countNow) ∧
      (stopping = true ∨ producer.isClosed = true →
        (producer.line kind).waiting.length + (producer.dueOf kind later).length <
          later.count (.stepDrain kind) →
        ((producer.moveAll later).drained? kind).isSome) := by
  intro first producer
  have orderly : Orderly capacity first schedule producer :=
    orderly_moveAll capacity refusal schedule
  have ⟨wired, sound, accounts⟩ := orderly
  refine ⟨accounts, fun topic key content isOpen => ?_, fun kind move more => ?_,
    fun kind count result => ?_, fun kind held isHeld started => ⟨fun isClosed => ?_, ?_⟩,
    fun kind count stopping later running => ⟨fun countNow result => ?_, fun mustEnd enough => ?_⟩⟩
  · rw [Producer.move, wired.sendAsync_eq isOpen, state_file, due, isOpen]
    refine ⟨_, rfl, ?_⟩
    rcases producer.state.append_cases topic key content with
      ⟨delivered, payload, outcome, encoded, appended⟩ | ⟨fault, outcome, unchanged⟩
    · rw [outcome]
      exact .inl ⟨rfl, payload, encoded, appended⟩
    · rw [outcome]
      exact .inr ⟨rfl, unchanged⟩
  · obtain ⟨reports, refused⟩ := ReportLine.refused_of_discarded (change_move wired kind move) more
    rcases refused with ⟨count, ended⟩ | full
    · refine .inr ⟨by rw [drained?_of_ended ended]; rfl, ?_⟩
      rcases (sound kind).ended count ended with told | closed
      · exact told
      · rw [wired.mayReport, closed] at reports
        cases reports
    · exact .inl ((Nat.le_antisymm (sound kind).room full).trans (sound kind).capacity)
  · rw [drained?_eq] at result
    rw [(sound kind).result?_eq result, (accounts kind).length_eq]
  · exact ⟨_, orderly.join_eq isClosed isHeld started, (accounts kind).length_eq.symm⟩
  · exact orderly.stop_eq isHeld started
  · have soundNow := (orderly_moveAll capacity refusal (schedule ++ later)).sound kind
    rw [moveAll, List.foldl_append] at soundNow
    rw [drained?_eq] at result
    rw [soundNow.result?_eq result]
    calc
      count + (producer.line kind).waiting.length = (producer.line kind).taken := by
        rw [ReportLine.taken, ReportLine.drained, running]
      _ ≤ ((producer.moveAll later).line kind).taken := taken_le_moveAll wired kind later
  · obtain ⟨countNow, ended⟩ := ends_moveAll wired running mustEnd enough
    rw [drained?_of_ended ended]
    rfl

/-- Two values that are appended, of which the line has room for the report of one, one that cannot
be encoded, and one that is acknowledged; the drain is started after closing. -/
def buildSchedule : List ProducerMove :=
  [.sendAsync "builds" none (.json .null), .sendAsync "builds" (some "key") (.json .null),
    .sendAsync "builds" none (.broken "no text"), .send "builds" none (.json .null), .close,
    .startDrain .successes]

def buildProducer : Producer MemoryLog :=
  (ofTransport 0 MemoryLog.transport (.empty none)).moveAll buildSchedule

theorem late_drain_collects_rest :
    (AttendedProducer.join .successes ⟨buildProducer, [.successes]⟩).1 = .drained 1 ∧
      (AttendedProducer.stop .successes ⟨buildProducer, [.successes]⟩).1 = .drained 1 ∧
      (buildProducer.line .successes).discarded = 1 ∧ buildProducer.state.records.length = 3 := by
  obtain ⟨-, -, -, -, collected, -⟩ := reports_conserved 0 none buildSchedule
  have started : (buildProducer.line .successes).drain ≠ .notStarted := by
    rw [show (buildProducer.line .successes).drain = .running 0 false from rfl]
    nofun
  have isHeld : ReportKind.successes ∈ [ReportKind.successes] := List.mem_singleton_self _
  obtain ⟨joined, stopped⟩ := collected .successes [.successes] isHeld started
  obtain ⟨count, result, whole⟩ := joined rfl
  obtain rfl : count = 1 := Nat.add_right_cancel whole
  exact ⟨result, stopped, rfl, rfl⟩

end Producer

end EventCorrelation
