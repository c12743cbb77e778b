import EventCorrelation.Proofs.Intake.Readback
import Mathlib.Data.List.Induction

/-!
# Where completions come from

Every record of the log was published in some state that handling the intake passed through. Looked
at in that state, a message of the completion type is what it seems unless an event bears the name of
that type: the type of an event's announcement is the name that its caller chose.
-/

namespace EventCorrelation

theorem Publication.ofBytes_message {publication : Publication} (exact : publication.subject.Exact)
    (shallow : publication.subject.content.depth ≤ Message.contentLimit) (id : MessageId) :
    Message.ofBytes (Text.bytes (publication.message id).compact) = .ok (publication.message id) := by
  have dataEq := publication.message_data id
  refine (Message.readable_iff (by rw [dataEq]; exact exact.data) _).mpr ⟨?_, rfl⟩
  rw [dataEq]
  exact Entity.shallow_data_iff.mpr shallow

namespace EventService

variable {topic : String} {supply : Supply} {start : ServiceState MemoryStore MemoryLog}

/-- While the records are handled from the start on, the publication is made in this state: one of
the records has stored an entity, of what belongs to that entity the earlier publications are made,
and the later ones are not. -/
inductive PublishesIn (topic : String) (supply : Supply)
    (start : ServiceState MemoryStore MemoryLog) :
    List Record → ServiceState MemoryStore MemoryLog → Publication → Prop
  | intro (front : List Record) (record : Record) (back : List Record)
      {state reached : ServiceState MemoryStore MemoryLog} {entity : Entity}
      {earlier later : List Publication} {publication : Publication}
      (before : ((inMemory topic supply).handleAll front start).2 = state)
      (stores : stored entity state = reached)
      (belongs : reached.store.publications entity = earlier ++ publication :: later)
      (handled : (inMemory topic supply).handle record state =
        (.ok (), (inMemory topic supply).publishAll (earlier ++ publication :: later) reached)) :
      PublishesIn topic supply start (front ++ record :: back)
        ((inMemory topic supply).publishAll earlier reached) publication

theorem PublishesIn.append {records : List Record} {moment : ServiceState MemoryStore MemoryLog}
    {publication : Publication} (publishes : PublishesIn topic supply start records moment publication)
    (more : List Record) : PublishesIn topic supply start (records ++ more) moment publication := by
  cases publishes with
  | intro front record back before stores belongs handled =>
    rw [List.append_assoc, List.cons_append]
    exact .intro front record (back ++ more) before stores belongs handled

section Steps

variable {σ : Type} (service : EventService σ)

theorem handleAll_concat (records : List Record) (last : Record) (state : ServiceState σ MemoryLog) :
    (service.handleAll (records ++ [last]) state).2 =
      (service.handle last (service.handleAll records state).2).2 := by
  induction records generalizing state with
  | nil => rfl
  | cons record rest ih => exact ih (service.handle record state).2

/-- A record that is in the log after some publications was there before, or one of them put it
there. -/
theorem exists_publication {state : ServiceState σ MemoryLog} (healthy : state.producer.Healthy)
    {publications : List Publication} {before behind : List PublishedRecord}
    {published : PublishedRecord}
    (splits : (service.publishAll publications state).producer.state.records =
      before ++ published :: behind) :
    (∃ rest, state.producer.state.records = before ++ published :: rest) ∨
      ∃ earlier publication later, publications = earlier ++ publication :: later ∧
        (service.publishAll earlier state).producer.state.records = before ∧
        published = service.publishedRecord (service.publishAll earlier state) publication := by
  induction publications generalizing state with
  | nil => exact .inl ⟨behind, splits⟩
  | cons publication rest ih =>
    obtain ⟨stillHealthy, appended⟩ := service.records_publish healthy publication
    rcases ih stillHealthy splits with ⟨more, split⟩ | ⟨earlier, other, later, rfl, same, isOther⟩
    · rw [appended] at split
      -- nothing more behind it: it is the one appended; else the appended one stands further behind
      rcases List.eq_nil_or_concat more with rfl | ⟨more, last, rfl⟩
      · obtain ⟨same, isLast⟩ := List.append_inj' split rfl
        exact .inr ⟨[], publication, rest, rfl, same, (List.cons.inj isLast).1.symm⟩
      · refine .inl ⟨more, ?_⟩
        rw [List.concat_eq_append, ← List.cons_append, ← List.append_assoc] at split
        exact (List.append_inj' split rfl).1
    · exact .inr ⟨publication :: earlier, other, later, rfl, same, isOther⟩

end Steps

/-- Every record of the log was published in a state that handling the records passed through. -/
theorem exists_moment (topic : String) (supply : Supply) (capacity : Nat) {records : List Record}
    {before behind : List PublishedRecord} {published : PublishedRecord}
    (splits : ((inMemory topic supply).handleAll records (.fresh capacity)).2.producer.state.records =
      before ++ published :: behind) :
    ∃ moment publication, PublishesIn topic supply (.fresh capacity) records moment publication ∧
      moment.producer.state.records = before ∧
      published = (inMemory topic supply).publishedRecord moment publication := by
  -- from the last record on: either it put the published one there, or those before it did
  induction records using List.reverseRecOn generalizing behind with
  | nil => cases before <;> cases splits
  | append_singleton records record ih =>
    have mirrored : Mirrored topic ((inMemory topic supply).handleAll records (.fresh capacity)).2 :=
      (mirrored_fresh capacity).handleAll supply records
    rw [handleAll_concat] at splits
    generalize reached : ((inMemory topic supply).handleAll records (.fresh capacity)).2 = state at *
    rcases handle_inMemory topic supply record state with
      ⟨fault, failed⟩ | ⟨command, entity, -, -, -, handled⟩
    · rw [failed] at splits
      obtain ⟨moment, publication, publishes, found⟩ := ih splits
      exact ⟨moment, publication, publishes.append [record], found⟩
    · rw [handled] at splits
      have healthy : (stored entity state).producer.Healthy := mirrored.healthy
      rcases exists_publication _ healthy splits with
        ⟨rest, earlierSplit⟩ | ⟨earlier, publication, later, belongs, same, isRecord⟩
      · obtain ⟨moment, publication, publishes, found⟩ := ih earlierSplit
        exact ⟨moment, publication, publishes.append [record], found⟩
      · rw [belongs] at handled
        exact ⟨_, publication, .intro records record [] reached rfl belongs handled, same, isRecord⟩

/-- Of what belongs to an entity of the store, only the announcement of an event that bears the name
of the completion type and the completions of groups have that type. -/
theorem says_of_completionType {store : MemoryStore} {entity : Entity} {publication : Publication}
    (held : entity.HeldBy store) (belongs : publication ∈ store.publications entity)
    (id : MessageId) (isCompletion : (publication.message id).type = Message.groupCompleteType) :
    (∃ event ∈ store.events, event.name = Message.groupCompleteType ∧
      (publication.message id).data = ⟨[event], [], []⟩) ∨
    ∃ group ∈ store.groups, (publication.message id).data = ⟨[], [], [group]⟩ ∧
      group.memberIds ≠ [] ∧
      ∀ member ∈ group.memberIds,
        ∃ event ∈ store.events, event.success = true ∧ event.receiverId = member := by
  have notReceiver : Message.receiverCreatedType ≠ Message.groupCompleteType := by decide
  have notGroup : Message.groupCreatedType ≠ Message.groupCompleteType := by decide
  rcases List.mem_cons.mp belongs with rfl | isLater
  · cases entity with
    | event made => exact .inl ⟨made, held, isCompletion, rfl⟩
    | receiver made => exact absurd isCompletion notReceiver
    | group made => exact absurd isCompletion notGroup
  · cases entity with
    | event made =>
      obtain ⟨group, completed, rfl⟩ := List.mem_map.mp isLater
      obtain ⟨isGroup, -, complete⟩ := MemoryStore.mem_triggered.mp (List.mem_of_mem_filter completed)
      obtain ⟨nonempty, successes⟩ := MemoryStore.isComplete_iff.mp complete
      exact .inr ⟨group, isGroup, rfl, nonempty,
        fun member isMember => MemoryStore.hasSuccess_iff.mp (successes member isMember)⟩
    | receiver made | group made => cases isLater

/-- Whatever records are handled, each record of the log was published in a state that handling them
passed through, behind what stands in front of it. A message of the completion type that is published
in such a state either announces an event of its store with that very name, and no group, or carries
exactly one group, which is in the store and each member of which has a successful event. -/
theorem completions_explained (topic : String) (supply : Supply) (capacity : Nat)
    (records : List Record) :
    (∀ before published behind,
      ((inMemory topic supply).handleAll records (.fresh capacity)).2.producer.state.records =
        before ++ published :: behind →
      ∃ moment publication, PublishesIn topic supply (.fresh capacity) records moment publication ∧
        moment.producer.state.records = before ∧
        published = (inMemory topic supply).publishedRecord moment publication) ∧
    ∀ moment publication, PublishesIn topic supply (.fresh capacity) records moment publication →
      let message := publication.message (supply.id .message moment.drawn)
      message.type = Message.groupCompleteType →
      (∃ event ∈ moment.store.events, event.name = Message.groupCompleteType ∧
        message.data = ⟨[event], [], []⟩) ∨
      ∃ group ∈ moment.store.groups, message.data = ⟨[], [], [group]⟩ ∧ group.memberIds ≠ [] ∧
        ∀ member ∈ group.memberIds,
          ∃ event ∈ moment.store.events, event.success = true ∧ event.receiverId = member := by
  refine ⟨fun before published behind => exists_moment topic supply capacity, ?_⟩
  intro moment publication publishes message isCompletion
  cases publishes with
  | @intro front record back state _ entity earlier later _ before stores belongs handled =>
    subst stores
    have belongsHere : publication ∈ (state.store.add entity).publications entity := by
      change (state.store.add entity).publications entity = _ at belongs
      rw [belongs]
      exact List.mem_append_cons_self
    rw [publishAll_store]
    exact says_of_completionType (entity.heldBy_add state.store) belongsHere _ isCompletion

/-- The record that asks for a command. -/
def commandRecord (command : IntakeCommand) : Record :=
  ⟨"quorum.intake", 0, 0, none, some (Text.bytes command.toJson.compact), none⟩

theorem decode_commandRecord {command : IntakeCommand} (empty : command.content = .null) :
    (commandRecord command).decode IntakeCommand.decode = .ok command := by
  have exact : command.content.Exact := by
    rw [empty]
    exact ⟨trivial, trivial⟩
  exact IntakeCommand.decode_compact exact (by rw [empty]; decide)

theorem handle_commandRecord {σ τ : Type} {command : IntakeCommand}
    (empty : command.content = .null) (service : EventService σ) (state : ServiceState σ τ) :
    service.handle (commandRecord command) state =
      ((service.apply command state).1.mapError (.failed command.kind),
        (service.apply command state).2) := by
  rw [EventService.handle, decode_commandRecord empty]

theorem handleAll_commandRecords {commands : List IntakeCommand}
    (empty : ∀ command ∈ commands, command.content = .null) (service : EventService MemoryStore)
    (state : ServiceState MemoryStore MemoryLog) :
    (service.handleAll (commands.map commandRecord) state).2 =
      (service.performAll commands state).2 := by
  induction commands generalizing state with
  | nil => rfl
  | cons command rest ih =>
    rw [List.forall_mem_cons] at empty
    simp only [List.map_cons, handleAll, performAll, handle_commandRecord empty.1, apply_eq_perform,
      ih empty.2]

/-- A receiver, a group of it alone, and an event of the receiver that bears the name of the
completion type. -/
def impostorCommands (success : Bool) : List IntakeCommand :=
  [.createReceiver ⟨"unit", "test", "1", "", .null⟩,
    .createGroup ⟨"gate", "gate", "1", "", [⟨0⟩]⟩,
    .createEvent ⟨Message.groupCompleteType, "1", "", "", "", "", .null, success, ⟨0⟩⟩]

def impostorEvent (success : Bool) : Event :=
  ⟨⟨4⟩, Message.groupCompleteType, "1", "", "", "", "", .null, success, ⟨0⟩, ⟨0, 0⟩⟩

theorem content_impostorCommands (success : Bool) :
    ∀ command ∈ impostorCommands success, command.content = .null := by
  simp [impostorCommands, IntakeCommand.content]

/-- A failing event with the name of the completion type is announced by a message of that type,
which carries no group, while no group is complete. -/
theorem impostor_completes_nothing :
    let state := ((inMemory "events" .counting).handleAll
      ((impostorCommands false).map commandRecord) (.fresh 10)).2
    ∃ published ∈ state.producer.state.records, ∃ message,
      Message.ofBytes published.payload = .ok message ∧
      message.type = Message.groupCompleteType ∧ message.data.groups = [] ∧
      ∀ group ∈ state.store.groups, state.store.isComplete group = false := by
  rw [handleAll_commandRecords (content_impostorCommands false)]
  have exact : (Publication.announcement (.event (impostorEvent false))).subject.Exact :=
    ⟨⟨trivial, trivial⟩, Supply.isValid_counting 4⟩
  have read : Message.ofBytes (Text.bytes (Message.eventCreated ⟨5⟩ (impostorEvent false)).compact) =
      .ok (.eventCreated ⟨5⟩ (impostorEvent false)) :=
    Publication.ofBytes_message exact (Nat.zero_le _) ⟨5⟩
  -- the message gets a name so that nothing looks into its text
  generalize messageEq : Message.eventCreated ⟨5⟩ (impostorEvent false) = message at read
  refine ⟨⟨"events", some (impostorEvent false).receiverId.text, Text.bytes message.compact⟩, ?_,
    message, read, ?_, ?_, by decide⟩
  · rw [← messageEq]
    exact List.mem_of_getElem? (i := 2) rfl
  · rw [← messageEq]
    rfl
  · rw [← messageEq]
    rfl

/-- The group of the receiver as it is stored. -/
def impostorGate : ReceiverGroup :=
  ⟨⟨2⟩, "gate", "gate", "1", "", true, [⟨0⟩], ⟨0, 0⟩, ⟨0, 0⟩⟩

/-- The state in which its completion is published, if the event succeeds. -/
def impostorMoment : ServiceState MemoryStore MemoryLog :=
  (inMemory "events" .counting).publishAll [.announcement (.event (impostorEvent true))]
    (stored (.event (impostorEvent true))
      ((inMemory "events" .counting).performAll ((impostorCommands true).take 2) (.fresh 10)).2)

theorem publishesIn_impostorMoment :
    PublishesIn "events" .counting (.fresh 10) ((impostorCommands true).map commandRecord)
      impostorMoment (.completion impostorGate (impostorEvent true)) := by
  let last : IntakeCommand :=
    .createEvent ⟨Message.groupCompleteType, "1", "", "", "", "", .null, true, ⟨0⟩⟩
  have splits : (impostorCommands true).map commandRecord =
      ((impostorCommands true).take 2).map commandRecord ++ commandRecord last :: [] := rfl
  have emptyFront : ∀ command ∈ (impostorCommands true).take 2, command.content = .null :=
    fun command isCommand => content_impostorCommands true command (List.mem_of_mem_take isCommand)
  have before := handleAll_commandRecords emptyFront (inMemory "events" .counting) (.fresh 10)
  have emptyLast : last.content = .null := rfl
  rw [splits]
  refine .intro _ (commandRecord last) [] before rfl rfl ?_
  rw [handle_commandRecord emptyLast]
  rfl

/-- A successful one is announced in the same way, and behind it the group is rightly said to be
complete. -/
theorem impostor_before_completion :
    let records := (impostorCommands true).map commandRecord
    let log := ((inMemory "events" .counting).handleAll records (.fresh 10)).2.producer.state.records
    (∃ moment publication, PublishesIn "events" .counting (.fresh 10) records moment publication ∧
      moment.producer.state.records = log.take 2) ∧
    impostorGate ∈ impostorMoment.store.groups ∧
      ∀ member ∈ impostorGate.memberIds, ∃ event ∈ impostorMoment.store.events,
        event.success = true ∧ event.receiverId = member := by
  intro records log
  obtain ⟨published, genuine⟩ := completions_explained "events" .counting 10 records
  constructor
  · have logEq : log = ((inMemory "events" .counting).performAll (impostorCommands true)
        (.fresh 10)).2.producer.state.records :=
      congrArg (·.producer.state.records)
        (handleAll_commandRecords (content_impostorCommands true) _ _)
    have long : 2 < log.length := by
      rw [logEq]
      decide
    have splits : log = log.take 2 ++ log[2] :: log.drop 3 := by simp
    obtain ⟨moment, publication, publishes, same, -⟩ := published _ _ _ splits
    exact ⟨moment, publication, publishes, same⟩
  · rcases genuine _ _ publishesIn_impostorMoment rfl with
      ⟨event, -, -, data⟩ | ⟨group, isGroup, data, -, successes⟩
    · cases data
    · cases data
      exact ⟨isGroup, successes⟩

end EventService

end EventCorrelation
