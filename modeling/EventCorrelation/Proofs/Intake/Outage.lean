import EventCorrelation.Intake.Run
import EventCorrelation.Proofs.Intake.Completions
import EventCorrelation.Proofs.Service.Trigger

/-!
# Outages of the bus

Two states of a service that differ in their producers only lead to the same answers and to states
that again differ in their producers only. So neither the transport of a producer nor anything that
happens to it can be told from what the intake answers and what the store holds in the end.
-/

namespace EventCorrelation

variable {σ τ υ : Type}

/-- The two states differ in their producers at most. -/
structure SameBooks (state : ServiceState σ τ) (other : ServiceState σ υ) : Prop where
  store : state.store = other.store
  drawn : state.drawn = other.drawn

/-- The same answer, and states that differ in their producers at most. -/
structure Alike {α : Type} (result : α × ServiceState σ τ) (other : α × ServiceState σ υ) :
    Prop where
  answer : result.1 = other.1
  books : SameBooks result.2 other.2

namespace Alike

variable {α β : Type} {result : α × ServiceState σ τ} {other : α × ServiceState σ υ}

theorem exists_eq (alike : Alike result other) :
    ∃ answer next otherNext, result = (answer, next) ∧ other = (answer, otherNext) ∧
      SameBooks next otherNext :=
  ⟨result.1, result.2, other.2, rfl, Prod.ext alike.answer.symm rfl, alike.books⟩

theorem map (alike : Alike result other) (read : α → β) :
    Alike (read result.1, result.2) (read other.1, other.2) :=
  ⟨congrArg read alike.answer, alike.books⟩

end Alike

theorem EventService.intakeAll_handle (service : EventService σ) (record : Record)
    (rest : List IntakeMove) (state : ServiceState σ τ) :
    service.intakeAll (.handle record :: rest) state =
      (⟨(service.handle record state).1, service.creation? record state⟩ ::
          (service.intakeAll rest (service.handle record state).2).1,
        (service.intakeAll rest (service.handle record state).2).2) := rfl

namespace SameBooks

variable {state : ServiceState σ τ} {other : ServiceState σ υ} (service : EventService σ)

theorem announce (books : SameBooks state other) (key : String) (message : MessageId → Message) :
    SameBooks (service.announce key message state) (service.announce key message other) :=
  ⟨books.store, congrArg (· + 1) books.drawn⟩

theorem requireReceiver (books : SameBooks state other) (id : ReceiverId) :
    service.requireReceiver id state = service.requireReceiver id other := by
  rw [EventService.requireReceiver, EventService.requireReceiver, books.store]

theorem checkMembers (books : SameBooks state other) (members : List ReceiverId) :
    service.checkMembers members state = service.checkMembers members other := by
  have required : (service.requireReceiver · state) = (service.requireReceiver · other) :=
    funext (books.requireReceiver service)
  rw [EventService.checkMembers, EventService.checkMembers, required]

theorem createReceiver (books : SameBooks state other) (new : NewReceiver) :
    Alike (service.createReceiver new state) (service.createReceiver new other) := by
  obtain ⟨store, drawn⟩ := books
  unfold EventService.createReceiver
  rw [store, drawn]
  split
  · exact ⟨rfl, store, drawn⟩
  · dsimp only
    split
    · exact ⟨rfl, rfl, rfl⟩
    · exact ⟨rfl, rfl, rfl⟩

theorem createGroup (books : SameBooks state other) (new : NewGroup) :
    Alike (service.createGroup new state) (service.createGroup new other) := by
  unfold EventService.createGroup
  rw [books.checkMembers service]
  obtain ⟨store, drawn⟩ := books
  split
  · exact ⟨rfl, store, drawn⟩
  · rw [store, drawn]
    dsimp only
    split
    · exact ⟨rfl, rfl, rfl⟩
    · exact ⟨rfl, rfl, rfl⟩

theorem storeEvent (books : SameBooks state other) (new : NewEvent) :
    Alike (service.storeEvent new state) (service.storeEvent new other) := by
  unfold EventService.storeEvent
  rw [books.store, books.drawn]
  exact ⟨rfl, rfl, rfl⟩

theorem publishCompletions (books : SameBooks state other) (event : Event) :
    Alike (service.publishCompletions event state) (service.publishCompletions event other) := by
  unfold EventService.publishCompletions
  rw [books.store]
  split
  · exact ⟨rfl, books⟩
  · simp only [EventService.announceCompletions_eq]
    exact ⟨rfl, by simp [books.store], by simp [books.drawn]⟩

theorem createEvent (books : SameBooks state other) (new : NewEvent) :
    Alike (service.createEvent new state) (service.createEvent new other) := by
  unfold EventService.createEvent
  rw [books.requireReceiver service]
  split
  · exact ⟨rfl, books⟩
  · obtain ⟨outcome, next, otherNext, stores, otherStores, booksNext⟩ :=
      (books.storeEvent service new).exists_eq
    rw [stores, otherStores]
    cases outcome with
    | error fault => exact ⟨rfl, booksNext⟩
    | ok event =>
      have booksAnnounced : SameBooks (service.announceEvent event next)
          (service.announceEvent event otherNext) := booksNext.announce service _ _
      obtain ⟨completed, last, otherLast, publishes, otherPublishes, booksLast⟩ :=
        (booksAnnounced.publishCompletions service event).exists_eq
      dsimp only
      rw [publishes, otherPublishes]
      cases completed <;> exact ⟨rfl, booksLast⟩

theorem perform (books : SameBooks state other) (command : IntakeCommand) :
    Alike (service.perform command state) (service.perform command other) := by
  cases command with
  | createEvent new => exact (books.createEvent service new).map _
  | createReceiver new => exact (books.createReceiver service new).map _
  | createGroup new => exact (books.createGroup service new).map _

theorem creation? (books : SameBooks state other) (record : Record) :
    service.creation? record state = service.creation? record other := by
  unfold EventService.creation?
  split
  · rfl
  · rw [(books.perform service _).answer]

theorem apply (books : SameBooks state other) (command : IntakeCommand) :
    Alike (service.apply command state) (service.apply command other) := by
  rw [EventService.apply_eq_perform, EventService.apply_eq_perform]
  exact (books.perform service command).map _

theorem handle (books : SameBooks state other) (record : Record) :
    Alike (service.handle record state) (service.handle record other) := by
  unfold EventService.handle
  split
  · exact ⟨rfl, books⟩
  · exact (books.apply service _).map _

/-- A whole run can only be told from one that does nothing but handle the same records by what is
left of the producer. -/
theorem intakeAll (books : SameBooks state other) (schedule : List IntakeMove) :
    Alike (service.intakeAll schedule state)
      (service.intakeAll ((schedule.filterMap IntakeMove.record?).map .handle) other) := by
  induction schedule generalizing state other with
  | nil => exact ⟨rfl, books⟩
  | cons move rest ih =>
    cases move with
    | bus move => exact ih ⟨books.store, books.drawn⟩
    | handle record =>
      obtain ⟨answer, booksNext⟩ := books.handle service record
      obtain ⟨later, booksLast⟩ := ih booksNext
      have keeps : (IntakeMove.handle record :: rest).filterMap IntakeMove.record? =
          record :: rest.filterMap IntakeMove.record? := rfl
      refine ⟨?_, booksLast⟩
      rw [keeps, List.map_cons, EventService.intakeAll_handle,
        EventService.intakeAll_handle, answer, later, books.creation? service]

end SameBooks

namespace EventService

/-- What comes of the records of the intake is the same whatever the bus does: the answers, what is
created with the groups that it completes, what the store holds in the end, and how many identifiers
and times are drawn. The two producers may be over any transports or none, and in any state; so a
transport may take every record, refuse every record, or change its mind between two messages of one
record. Between the records each producer may be used in any way and closed at any point. -/
theorem bus_affects_no_record (service : EventService σ) (store : σ) (drawn : Nat)
    (producer : Producer τ) (other : Producer υ) (schedule otherSchedule : List IntakeMove)
    (sameRecords :
      schedule.filterMap IntakeMove.record? = otherSchedule.filterMap IntakeMove.record?) :
    let run := service.intakeAll schedule ⟨store, producer, drawn⟩
    let otherRun := service.intakeAll otherSchedule ⟨store, other, drawn⟩
    run.1 = otherRun.1 ∧ run.2.store = otherRun.2.store ∧ run.2.drawn = otherRun.2.drawn := by
  intro run otherRun
  -- both runs are compared to the one that does nothing but handle the records
  obtain ⟨answers, books⟩ := SameBooks.intakeAll service
    (⟨rfl, rfl⟩ : SameBooks ⟨store, producer, drawn⟩ ⟨store, other, drawn⟩) schedule
  obtain ⟨otherAnswers, otherBooks⟩ := SameBooks.intakeAll service
    (⟨rfl, rfl⟩ : SameBooks ⟨store, other, drawn⟩ ⟨store, other, drawn⟩) otherSchedule
  rw [← sameRecords] at otherAnswers otherBooks
  exact ⟨answers.trans otherAnswers.symm, books.store.trans otherBooks.store.symm,
    books.drawn.trans otherBooks.drawn.symm⟩

theorem intakeAll_commandRecords {commands : List IntakeCommand}
    (empty : ∀ command ∈ commands, command.content = .null) (service : EventService σ)
    (state : ServiceState σ τ) :
    (service.intakeAll ((commands.map commandRecord).map .handle) state).1.map (·.creation) =
      (service.performAll commands state).1.map (·.outcome.toOption) := by
  induction commands generalizing state with
  | nil => rfl
  | cons command rest ih =>
    rw [List.forall_mem_cons] at empty
    rw [List.map_cons, List.map_cons, intakeAll_handle, List.map_cons, ih empty.2,
      handle_commandRecord empty.1, apply_eq_perform, creation?, decode_commandRecord empty.1]
    rfl

/-- What a run creates is what its commands create without a bus. -/
theorem creations_eq {commands : List IntakeCommand} {schedule : List IntakeMove}
    (empty : ∀ command ∈ commands, command.content = .null)
    (asked : schedule.filterMap IntakeMove.record? = commands.map commandRecord)
    (service : EventService σ) (store : σ) (producer : Producer τ) (drawn : Nat) :
    (service.intakeAll schedule ⟨store, producer, drawn⟩).1.map (·.creation) =
      (service.performAll commands ⟨store, .disabled (), drawn⟩).1.map (·.outcome.toOption) := by
  have books : SameBooks ⟨store, producer, drawn⟩ ⟨store, .disabled (), drawn⟩ := ⟨rfl, rfl⟩
  rw [(books.intakeAll service schedule).answer, asked, intakeAll_commandRecords empty]

/-- The records of the gate. -/
def gateSchedule : List IntakeMove := (gateCommands.map commandRecord).map .handle

/-- The same with the producer closed before the last one. -/
def cutGateSchedule : List IntakeMove :=
  gateSchedule.take 5 ++ .bus .close :: gateSchedule.drop 5

theorem record?_gateSchedule :
    gateSchedule.filterMap IntakeMove.record? = gateCommands.map commandRecord := by
  rw [gateSchedule, List.filterMap_map]
  exact List.filterMap_some

theorem record?_cutGateSchedule :
    cutGateSchedule.filterMap IntakeMove.record? = gateCommands.map commandRecord := by
  rw [cutGateSchedule, List.filterMap_append, List.filterMap_cons_none rfl,
    ← List.filterMap_append, List.take_append_drop, record?_gateSchedule]

/-- A producer over a log that takes every record, unless it is told to refuse all. -/
def gateProducer (refusal : Option String) : Producer MemoryLog :=
  .ofTransport 10 MemoryLog.transport (.empty refusal)

/-- The groups are completed as well when the broker is down and the producer is closed. -/
theorem gate_completes_during_outage :
    let healthy := (inMemory "events" .counting).intakeAll gateSchedule
      ⟨.empty, gateProducer none, 0⟩
    let outage := (inMemory "events" .counting).intakeAll cutGateSchedule
      ⟨.empty, gateProducer (some "broker down"), 0⟩
    outage.1 = healthy.1 ∧ outage.2.store = healthy.2.store ∧
      outage.1.map (·.creation) = gateHistory.map (·.outcome.toOption) ∧
      gateHistory.map (·.completed) = [[], [], [], [], [⟨4⟩], [⟨4⟩]] := by
  have empty : ∀ command ∈ gateCommands, command.content = .null := by
    simp [gateCommands, IntakeCommand.content]
  obtain ⟨answers, store, -⟩ := bus_affects_no_record (inMemory "events" .counting) .empty 0
    (gateProducer (some "broker down")) (gateProducer none) cutGateSchedule gateSchedule
    (record?_cutGateSchedule.trans record?_gateSchedule.symm)
  exact ⟨answers, store, creations_eq empty record?_cutGateSchedule _ _ _ _, rfl⟩

end EventService

end EventCorrelation
