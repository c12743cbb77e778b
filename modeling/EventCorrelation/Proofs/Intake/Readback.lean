import EventCorrelation.Proofs.Identifier.Draws
import EventCorrelation.Proofs.Intake.Mirror
import EventCorrelation.Proofs.Wire.Commands
import EventCorrelation.Proofs.Wire.Readability

/-!
# Reading the log back

What intake records make a service publish can be read back, with one exception: an envelope puts
two brackets around a payload or schema and a message four, so what nests almost as deep as a reader
accepts comes in but is not readable when it goes out.
-/

namespace EventCorrelation

open Json

namespace Entity

/-- The payload or the schema of an entity. -/
def content : Entity → Json
  | .event made => made.payload
  | .receiver made => made.schema
  | .group _ => .null

/-- Message data with this entity alone. -/
def data : Entity → MessageData
  | .event made => ⟨[made], [], []⟩
  | .receiver made => ⟨[], [made], []⟩
  | .group made => ⟨[], [], [made]⟩

/-- The data list the entity. -/
def ListedIn (data : MessageData) : Entity → Prop
  | .event made => made ∈ data.events
  | .receiver made => made ∈ data.receivers
  | .group made => made ∈ data.groups

/-- The store holds the entity. -/
def HeldBy (store : MemoryStore) : Entity → Prop
  | .event made => made ∈ store.events
  | .receiver made => made ∈ store.receivers
  | .group made => made ∈ store.groups

/-- The entity is carried by JSON without loss. -/
def Exact : Entity → Prop
  | .event made => made.Exact
  | .receiver made => made.Exact
  | .group made => made.Exact

variable {entity other : Entity} {store : MemoryStore}

theorem listedIn_data (entity : Entity) : entity.ListedIn entity.data := by
  cases entity <;> exact List.mem_singleton_self _

theorem Exact.data (exact : entity.Exact) : entity.data.Exact := by
  cases entity with
  | event made => exact ⟨List.forall_mem_singleton.mpr exact, nofun, nofun⟩
  | receiver made => exact ⟨nofun, List.forall_mem_singleton.mpr exact, nofun⟩
  | group made => exact ⟨nofun, nofun, List.forall_mem_singleton.mpr exact⟩

theorem shallow_data_iff : entity.data.Shallow ↔ entity.content.depth ≤ Message.contentLimit := by
  cases entity with
  | event made =>
    refine ⟨fun shallow => shallow.events made (List.mem_singleton_self _),
      fun small => ⟨?_, nofun⟩⟩
    intro event isEvent
    rwa [List.mem_singleton.mp isEvent]
  | receiver made =>
    refine ⟨fun shallow => shallow.receivers made (List.mem_singleton_self _),
      fun small => ⟨nofun, ?_⟩⟩
    intro receiver isReceiver
    rwa [List.mem_singleton.mp isReceiver]
  | group made => exact ⟨fun _ => Nat.zero_le _, fun _ => ⟨nofun, nofun⟩⟩

theorem heldBy_add (entity : Entity) (store : MemoryStore) : entity.HeldBy (store.add entity) := by
  cases entity <;> simp [HeldBy, MemoryStore.add]

theorem HeldBy.add (held : other.HeldBy store) (entity : Entity) :
    other.HeldBy (store.add entity) := by
  cases other <;> cases entity <;> simp_all [HeldBy, MemoryStore.add]

end Entity

theorem IntakeCommand.exact_toEntity {command : IntakeCommand} (exact : command.content.Exact)
    (number : BitVec 128) {now : Timestamp} (valid : now.IsValid) :
    (command.toEntity number now).Exact := by
  cases command with
  | createEvent new => exact ⟨exact, valid⟩
  | createReceiver new => exact ⟨exact, valid⟩
  | createGroup new => exact ⟨valid, valid⟩

namespace Publication

/-- The entity that a publication is about. -/
def subject : Publication → Entity
  | .announcement entity => entity
  | .completion group _ => .group group

theorem message_data (publication : Publication) (id : MessageId) :
    (publication.message id).data = publication.subject.data := by
  cases publication with
  | announcement entity => cases entity <;> rfl
  | completion group trigger => rfl

/-- The record carries the publication, which is about an entity of the store; it can be read just
if the content of the entity does not nest too deep, and then its data list the entity. -/
structure ReadBack (topic : String) (store : MemoryStore) (publication : Publication)
    (record : PublishedRecord) : Prop where
  carried : publication.CarriedBy topic record
  held : publication.subject.HeldBy store
  readable : (∃ message, Message.ofBytes record.payload = .ok message) ↔
    publication.subject.content.depth ≤ Message.contentLimit
  listed : ∀ message, Message.ofBytes record.payload = .ok message →
    publication.subject.ListedIn message.data

theorem readBack_of_carried {topic : String} {store : MemoryStore} {publication : Publication}
    {record : PublishedRecord} (carried : publication.CarriedBy topic record)
    (exact : publication.subject.Exact) (held : publication.subject.HeldBy store) :
    publication.ReadBack topic store record := by
  obtain ⟨-, -, id, payload⟩ := id carried
  have dataEq := publication.message_data id
  have readable_iff (other : Message) : Message.ofBytes record.payload = .ok other ↔
      publication.subject.content.depth ≤ Message.contentLimit ∧
        other = publication.message id := by
    rw [payload, Message.readable_iff (by rw [dataEq]; exact exact.data), dataEq,
      Entity.shallow_data_iff]
  refine ⟨carried, held, ⟨?_, fun small => ⟨_, (readable_iff _).mpr ⟨small, rfl⟩⟩⟩, ?_⟩
  · rintro ⟨message, decoded⟩
    exact ((readable_iff message).mp decoded).1
  · intro message decoded
    obtain ⟨-, rfl⟩ := (readable_iff message).mp decoded
    rw [dataEq]
    exact publication.subject.listedIn_data

end Publication

/-- What is decoded from a text is decoded from its tree. -/
theorem Json.exists_of_decode {α : Type} {decoder : Decoder α} {text : List UInt8} {value : α}
    (decoded : Json.decode decoder text = .ok value) :
    ∃ tree, decoder ⟨.text, nestingLimit⟩ tree = .ok value := by
  unfold Json.decode at decoded
  obtain ⟨other, decodedTree, ended⟩ := exists_of_bind decoded
  dsimp only at ended
  split at ended
  · cases ended
  · split at ended
    · cases ended
      exact ⟨_, decodedTree⟩
    · cases ended

namespace EventService

variable {topic : String} {supply : Supply} {state : ServiceState MemoryStore MemoryLog}

/-- The contents of the command of a record, if it has one, have no floating point numbers. -/
def PlainCommand (record : Record) : Prop :=
  ∀ command, record.decode IntakeCommand.decode = .ok command → command.content.FloatFree

/-- What holds between any two records: the log carries publications about exact entities of the
store. -/
structure Readable (topic : String) (state : ServiceState MemoryStore MemoryLog) : Prop where
  mirrored : Mirrored topic state
  groups : ∀ group ∈ state.store.groups, group.Exact
  log : ∃ publications,
    List.Forall₂ (Publication.CarriedBy topic) publications state.producer.state.records ∧
    ∀ publication ∈ publications,
      publication.subject.Exact ∧ publication.subject.HeldBy state.store

theorem readable_fresh (capacity : Nat) : Readable topic (.fresh capacity) where
  mirrored := mirrored_fresh capacity
  groups := nofun
  log := ⟨[], .nil, nofun⟩

/-- Completions are about groups that the store holds. -/
theorem subject_of_completions {store : MemoryStore} {entity : Entity} {publication : Publication}
    (isCompletion : publication ∈ store.completions entity) :
    ∃ group ∈ store.groups, publication.subject = .group group := by
  cases entity with
  | event made =>
    obtain ⟨group, triggered, rfl⟩ := List.mem_map.mp isCompletion
    exact ⟨group, (MemoryStore.mem_triggered.mp triggered).1, rfl⟩
  | receiver made | group made => cases isCompletion

theorem Accepted.exact {after : ServiceState MemoryStore MemoryLog} {record : Record}
    {entity : Entity} (accepted : Accepted topic supply record state after entity)
    (times : ∀ draw, (supply.time draw).IsValid) (plain : PlainCommand record) : entity.Exact := by
  obtain ⟨command, decoded, rfl⟩ := accepted.asked
  obtain ⟨tree, decodedTree⟩ := Json.exists_of_decode decoded
  exact IntakeCommand.exact_toEntity
    ⟨plain command decoded, IntakeCommand.sorted_of_decode decodedTree⟩ _ (times _)

theorem Readable.handle (readable : Readable topic state)
    (times : ∀ draw, (supply.time draw).IsValid) {record : Record} (plain : PlainCommand record) :
    Readable topic ((inMemory topic supply).handle record state).2 := by
  rcases readable.mirrored.handle supply record with
    ⟨fault, handled⟩ | ⟨after, entity, accepted, mirrored⟩
  · rw [handled]
    exact readable
  · rw [accepted.handled]
    have entityExact : entity.Exact := accepted.exact times plain
    have entityHeld : entity.HeldBy after.store := by
      rw [accepted.store]
      exact entity.heldBy_add state.store
    have groups : ∀ group ∈ after.store.groups, group.Exact := by
      intro group isGroup
      rw [accepted.store, MemoryStore.groups_add] at isGroup
      rcases List.mem_append.mp isGroup with old | new
      · exact readable.groups group old
      · cases entity with
        | group made => rwa [List.mem_singleton.mp new]
        | event made | receiver made => cases new
    obtain ⟨publications, carried, each⟩ := readable.log
    obtain ⟨announcement, completions, records, carriedFirst, carriedRest⟩ := accepted.log
    refine ⟨mirrored, groups,
      publications ++ .announcement entity :: after.store.completions entity, ?_, ?_⟩
    · rw [records]
      exact List.rel_append carried (.cons carriedFirst carriedRest)
    · intro publication isPublication
      rcases List.mem_append.mp isPublication with old | new
      · -- The store only grows, so what the log is about stays in it.
        obtain ⟨exact, held⟩ := each publication old
        rw [accepted.store]
        exact ⟨exact, held.add entity⟩
      · rcases List.mem_cons.mp new with rfl | isCompletion
        · exact ⟨entityExact, entityHeld⟩
        · obtain ⟨group, isGroup, about⟩ := subject_of_completions isCompletion
          rw [about]
          exact ⟨groups group isGroup, isGroup⟩

theorem Readable.handleAll (readable : Readable topic state)
    (times : ∀ draw, (supply.time draw).IsValid) {records : List Record}
    (plain : ∀ record ∈ records, PlainCommand record) :
    Readable topic ((inMemory topic supply).handleAll records state).2 := by
  induction records generalizing state with
  | nil => exact readable
  | cons record rest ih =>
    rw [List.forall_mem_cons] at plain
    exact ih (readable.handle times plain.1) plain.2

/-- Whatever records a service handles, if their commands have no floating point numbers in payloads
and schemas: every record of its log carries a publication about an entity of its store, and it can
be read just if the payload or schema of that entity nests no deeper than 123 brackets; then its
data list the entity. -/
theorem log_read_back (topic : String) (supply : Supply)
    (times : ∀ draw, (supply.time draw).IsValid) (capacity : Nat) (records : List Record)
    (plain : ∀ record ∈ records, PlainCommand record) :
    let state := ((inMemory topic supply).handleAll records (.fresh capacity)).2
    ∃ publications, List.Forall₂ (Publication.ReadBack topic state.store) publications
      state.producer.state.records := by
  intro state
  have readable : Readable topic state := (readable_fresh capacity).handleAll times plain
  obtain ⟨publications, carried, each⟩ := readable.log
  have both := (List.forall₂_and_left publications _).mpr ⟨each, carried⟩
  refine ⟨publications, both.imp fun publication record bothOf => ?_⟩
  obtain ⟨⟨exact, held⟩, carriedOf⟩ := bothOf
  exact Publication.readBack_of_carried carriedOf exact held

/-- A fresh service that accepts a receiver holds nothing else, and its log has one record, the
announcement. -/
theorem handle_newReceiver (topic : String) (supply : Supply) (capacity : Nat) {new : NewReceiver}
    {record : Record} (decoded : record.decode IntakeCommand.decode = .ok (.createReceiver new))
    (named : Text.allBlank new.name = false) :
    let made := new.toReceiver ⟨supply.number 0⟩ (supply.time 0)
    ∃ after published, (inMemory topic supply).handle record (.fresh capacity) = (.ok (), after) ∧
      after.store = .ofEntities [.receiver made] ∧ after.producer.state.records = [published] ∧
      (Publication.announcement (.receiver made)).CarriedBy topic published := by
  intro made
  have created := createReceiver_inMemory topic supply new
    (.fresh capacity : ServiceState MemoryStore MemoryLog) named
  have handled : (inMemory topic supply).handle record (.fresh capacity) =
      (.ok (), (inMemory topic supply).publishAll [.announcement (.receiver made)]
        (stored (.receiver made) (.fresh capacity))) := by
    simp only [EventService.handle, decoded, EventService.apply, created]
    rfl
  obtain ⟨-, records, recordsEq, carried⟩ := publishes_publishAll (inMemory topic supply)
    (stored (.receiver made) (.fresh capacity)) (Producer.healthy_ofTransport capacity)
    [.announcement (.receiver made)]
  cases carried with
  | cons carriedFirst carriedRest =>
    cases carriedRest
    exact ⟨_, _, handled, by rw [publishAll_store]; rfl, recordsEq, carriedFirst⟩

end EventService

/-- Empty brackets nested this deep around a null. -/
def Json.nested : Nat → Json
  | 0 => .null
  | levels + 1 => .array [nested levels]

theorem Json.depth_nested (levels : Nat) : (nested levels).depth = levels := by
  induction levels with
  | zero => rfl
  | succ levels ih => simp [nested, depth, depthItems, ih]

theorem Json.nested_exact (levels : Nat) : (nested levels).Exact := by
  induction levels with
  | zero => exact ⟨trivial, trivial⟩
  | succ levels ih => exact ⟨⟨ih.floatFree, trivial⟩, ⟨ih.sorted, trivial⟩⟩

theorem Supply.isValid_counting (draw : Nat) : (Supply.counting.time draw).IsValid := by
  have epoch : (⟨0, 0⟩ : Timestamp).IsValid := ⟨by decide, by decide⟩
  exact epoch

namespace EventService

/-- A receiver with a schema nested this deep. -/
def nestedReceiver (levels : Nat) : NewReceiver := ⟨"deep", "scan", "1", "", .nested levels⟩

/-- The record that asks for it. -/
def nestedRecord (levels : Nat) : Record :=
  ⟨"quorum.intake", 0, 0, none,
    some (Text.bytes (IntakeCommand.createReceiver (nestedReceiver levels)).toJson.compact), none⟩

theorem decode_nestedRecord {levels : Nat} (shallow : levels + 2 ≤ nestingLimit) :
    (nestedRecord levels).decode IntakeCommand.decode =
      .ok (.createReceiver (nestedReceiver levels)) := by
  rw [Record.decode, nestedRecord, Option.getD_some]
  refine IntakeCommand.decode_compact (Json.nested_exact levels) ?_
  rwa [IntakeCommand.content, nestedReceiver, Json.depth_nested]

theorem plainCommand_nestedRecord {levels : Nat} (shallow : levels + 2 ≤ nestingLimit) :
    PlainCommand (nestedRecord levels) := by
  intro command decoded
  rw [decode_nestedRecord shallow] at decoded
  obtain rfl := Except.ok.inj decoded
  exact (Json.nested_exact levels).floatFree

/-- The receiver that comes of it. -/
def nestedMade (levels : Nat) : Receiver := (nestedReceiver levels).toReceiver ⟨0⟩ ⟨0, 0⟩

theorem depth_nestedMade (levels : Nat) : (nestedMade levels).schema.depth = levels :=
  Json.depth_nested levels

theorem handleAll_nestedRecord {levels : Nat} (shallow : levels + 2 ≤ nestingLimit) :
    ∃ after published,
      (inMemory "quorum.events" .counting).handleAll [nestedRecord levels] (.fresh 10) =
        ([.ok ()], after) ∧
      after.store = .ofEntities [.receiver (nestedMade levels)] ∧
      after.producer.state.records = [published] ∧
      (Publication.announcement (.receiver (nestedMade levels))).CarriedBy "quorum.events"
        published := by
  have named : Text.allBlank "deep" = false := by decide
  obtain ⟨after, published, handled, store, log, carried⟩ :=
    handle_newReceiver "quorum.events" .counting 10 (decode_nestedRecord shallow) named
  exact ⟨after, published, by simp only [EventService.handleAll, handled], store, log, carried⟩

/-- The announcement of a schema at the limit is read back. -/
theorem schema_at_limit_read_back :
    let state := ((inMemory "quorum.events" .counting).handleAll [nestedRecord 123] (.fresh 10)).2
    ∃ published message, state.producer.state.records = [published] ∧
      Message.ofBytes published.payload = .ok message ∧
      nestedMade 123 ∈ message.data.receivers ∧ state.store.receivers = [nestedMade 123] := by
  have plain : ∀ record ∈ [nestedRecord 123], PlainCommand record :=
    List.forall_mem_singleton.mpr (plainCommand_nestedRecord (by decide))
  obtain ⟨publications, readBack⟩ := log_read_back "quorum.events" .counting
    Supply.isValid_counting 10 [nestedRecord 123] plain
  obtain ⟨after, published, handled, store, log, -⟩ :=
    handleAll_nestedRecord (show 123 + 2 ≤ nestingLimit by decide)
  rw [handled] at readBack ⊢
  dsimp only at readBack ⊢
  rw [store, log] at readBack
  cases readBack with
  | @cons publication _ _ _ first rest =>
    have held := first.held
    have readable := first.readable
    have listed := first.listed
    cases about : publication.subject with
    | event made | group made => rw [about] at held; cases held
    | receiver made =>
      rw [about] at held readable listed
      obtain rfl : made = nestedMade 123 := List.mem_singleton.mp held
      rw [Entity.content, depth_nestedMade] at readable
      obtain ⟨message, read⟩ := readable.mpr (by decide)
      exact ⟨published, message, log, read, listed message read, by rw [store]; rfl⟩

/-- One bracket more, and the service accepts the receiver but its announcement cannot be read. -/
theorem schema_beyond_limit_unreadable :
    let handled := (inMemory "quorum.events" .counting).handleAll [nestedRecord 124] (.fresh 10)
    handled.1 = [.ok ()] ∧ handled.2.store.receivers = [nestedMade 124] ∧
      ∃ published, handled.2.producer.state.records = [published] ∧
        ∀ message, Message.ofBytes published.payload ≠ .ok message := by
  obtain ⟨after, published, handled, store, log, carried⟩ :=
    handleAll_nestedRecord (show 124 + 2 ≤ nestingLimit by decide)
  have exact : (nestedMade 124).Exact := ⟨Json.nested_exact 124, Supply.isValid_counting 0⟩
  have held : (Entity.receiver (nestedMade 124)).HeldBy after.store := by
    rw [store]
    exact List.mem_singleton_self _
  have readBack := Publication.readBack_of_carried carried exact held
  rw [handled]
  refine ⟨rfl, by rw [store]; rfl, published, log, fun message read => ?_⟩
  have small := readBack.readable.mp ⟨message, read⟩
  rw [Publication.subject, Entity.content, depth_nestedMade] at small
  exact absurd small (by decide)

end EventService

end EventCorrelation
