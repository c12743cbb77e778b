import EventCorrelation.Bus.Trace
import EventCorrelation.Proofs.Bus.Lines

/-!
# Producers, move by move

What one move can do to the parts of a producer, whatever its transport is: the transport stays, only
closing closes, and the drain of one kind leaves the line of the other kind alone.
-/

namespace EventCorrelation.Producer

variable {σ : Type} {kind : ReportKind} {producer : Producer σ}

theorem line_file (report : Report) (producer : Producer σ) :
    (producer.file report).line kind =
      if report.kind = kind then (producer.line kind).push report else producer.line kind := by
  cases report <;> cases kind <;> simp [file, line, Report.kind, ReportLine.map_push]

@[simp]
theorem state_file (report : Report) (producer : Producer σ) :
    (producer.file report).state = producer.state := by
  cases report <;> rfl

@[simp]
theorem transport_file (report : Report) (producer : Producer σ) :
    (producer.file report).transport = producer.transport := by
  cases report <;> rfl

@[simp]
theorem isClosed_file (report : Report) (producer : Producer σ) :
    (producer.file report).isClosed = producer.isClosed := by
  cases report <;> rfl

theorem start?_line (kind : ReportKind) (producer : Producer σ) :
    ((producer.line kind).start? = none ∧
        producer.startDrain kind = (.error (.alreadyDraining kind.title), producer)) ∨
      ∃ started, producer.startDrain kind = (.ok (), started) ∧
        (producer.line kind).start? = some (started.line kind) := by
  cases kind with
  | successes =>
    rw [line, ReportLine.map_start?]
    cases starts : producer.successes.start? with
    | none => exact .inl ⟨rfl, by simp [startDrain, starts]⟩
    | some next =>
      exact .inr ⟨{ producer with successes := next }, by simp [startDrain, starts], rfl⟩
  | failures =>
    rw [line, ReportLine.map_start?]
    cases starts : producer.failures.start? with
    | none => exact .inl ⟨rfl, by simp [startDrain, starts]⟩
    | some next =>
      exact .inr ⟨{ producer with failures := next }, by simp [startDrain, starts], rfl⟩

theorem line_requestStop (kind : ReportKind) (producer : Producer σ) :
    (producer.requestStop kind).line kind = (producer.line kind).requestStop := by
  cases kind <;> exact (ReportLine.map_requestStop _ _).symm

theorem line_stepDrain (kind : ReportKind) (producer : Producer σ) :
    ((producer.stepDrain? kind).getD producer).line kind =
      ((producer.line kind).step? producer.mayReport).getD (producer.line kind) := by
  cases kind with
  | successes =>
    rw [line, line, ReportLine.map_step?, stepDrain?]
    cases producer.successes.step? producer.mayReport <;> rfl
  | failures =>
    rw [line, line, ReportLine.map_step?, stepDrain?]
    cases producer.failures.step? producer.mayReport <;> rfl

/-- The drain of one kind leaves the line of the other kind alone. -/
theorem line_of_ne {other : ReportKind} (isOther : other ≠ kind) (producer : Producer σ) :
    (producer.startDrain other).2.line kind = producer.line kind ∧
      (producer.requestStop other).line kind = producer.line kind ∧
      ((producer.stepDrain? other).getD producer).line kind = producer.line kind := by
  cases other with
  | successes =>
    cases kind with
    | successes => exact absurd rfl isOther
    | failures =>
      refine ⟨?_, rfl, ?_⟩
      · cases starts : producer.successes.start? <;> simp [startDrain, starts, line]
      · cases steps : producer.successes.step? producer.mayReport <;>
          simp [stepDrain?, steps, line]
  | failures =>
    cases kind with
    | failures => exact absurd rfl isOther
    | successes =>
      refine ⟨?_, rfl, ?_⟩
      · cases starts : producer.failures.start? <;> simp [startDrain, starts, line]
      · cases steps : producer.failures.step? producer.mayReport <;>
          simp [stepDrain?, steps, line]

theorem line_send (topic : String) (key : Option String) (content : Content)
    (producer : Producer σ) :
    (producer.send topic key content).2.line kind = producer.line kind := by
  unfold send
  split
  · rfl
  · split <;> cases kind <;> rfl

theorem line_close (producer : Producer σ) :
    producer.close.2.line kind = producer.line kind := by
  unfold close
  split
  · rfl
  · dsimp only
    split <;> cases kind <;> rfl

/-- The client of the producer is as before: its transport, the state of the transport, and whether
it was given back. -/
structure KeepsClient (producer next : Producer σ) : Prop where
  transport : next.transport = producer.transport
  state : next.state = producer.state
  isClosed : next.isClosed = producer.isClosed

theorem keepsClient_of_drain {move : ProducerMove} (isDrain : move.call? = none)
    (producer : Producer σ) : KeepsClient producer (producer.move move) := by
  cases move with
  | send | sendAsync | close => cases isDrain
  | startDrain kind =>
    cases kind with
    | successes =>
      cases starts : producer.successes.start? <;>
        simpa [Producer.move, startDrain, starts] using ⟨rfl, rfl, rfl⟩
    | failures =>
      cases starts : producer.failures.start? <;>
        simpa [Producer.move, startDrain, starts] using ⟨rfl, rfl, rfl⟩
  | requestStop kind => cases kind <;> exact ⟨rfl, rfl, rfl⟩
  | stepDrain kind =>
    cases kind with
    | successes =>
      cases steps : producer.successes.step? producer.mayReport <;>
        simpa [Producer.move, stepDrain?, steps] using ⟨rfl, rfl, rfl⟩
    | failures =>
      cases steps : producer.failures.step? producer.mayReport <;>
        simpa [Producer.move, stepDrain?, steps] using ⟨rfl, rfl, rfl⟩

/-- A move keeps the transport, and only closing closes. -/
theorem client_move (producer : Producer σ) (move : ProducerMove) :
    (producer.move move).transport = producer.transport ∧
      ((producer.move move).isClosed = true ↔ producer.isClosed = true ∨ move = .close) := by
  cases move with
  | send topic key content =>
    rw [Producer.move, send]
    split
    · simp
    · split <;> simp
  | sendAsync topic key content =>
    rw [Producer.move, sendAsync]
    split
    · simp
    · split
      · simp
      · dsimp only
        split <;> simp
  | close =>
    rw [Producer.move, close]
    split
    · next closed => simp [closed]
    · dsimp only
      split
      · next noTransport => simp [noTransport]
      · simp
  | startDrain | requestStop | stepDrain =>
    refine ⟨(keepsClient_of_drain (by rfl) producer).transport, ?_⟩
    exact (Bool.eq_iff_iff.mp (keepsClient_of_drain (by rfl) producer).isClosed).trans (by simp)

/-- A producer that has been closed stays closed. -/
theorem isClosed_move_of_closed (closed : producer.isClosed = true) (move : ProducerMove) :
    (producer.move move).isClosed = true :=
  (producer.client_move move).2.mpr (.inl closed)

theorem moveAll_cons (move : ProducerMove) (rest : List ProducerMove) (producer : Producer σ) :
    producer.moveAll (move :: rest) = (producer.move move).moveAll rest := rfl

theorem moveAll_concat (schedule : List ProducerMove) (last : ProducerMove)
    (producer : Producer σ) :
    producer.moveAll (schedule ++ [last]) = (producer.moveAll schedule).move last := by
  rw [moveAll, List.foldl_append]
  rfl

theorem transport_moveAll (schedule : List ProducerMove) (producer : Producer σ) :
    (producer.moveAll schedule).transport = producer.transport := by
  induction schedule generalizing producer with
  | nil => rfl
  | cons move rest ih => rw [moveAll_cons, ih, (producer.client_move move).1]

theorem isClosed_moveAll (schedule : List ProducerMove) (producer : Producer σ) :
    (producer.moveAll schedule).isClosed = true ↔
      producer.isClosed = true ∨ .close ∈ schedule := by
  induction schedule generalizing producer with
  | nil => simp [moveAll]
  | cons move rest ih =>
    rw [moveAll_cons, ih, (producer.client_move move).2, List.mem_cons, or_assoc,
      @eq_comm _ move]

end EventCorrelation.Producer
