import EventCorrelation.Intake.Handler
import EventCorrelation.Proofs.Bus.HealthyLog
import EventCorrelation.Proofs.Service.Perform

/-!
# The log mirrors the store

A record of the intake topic takes effect as a whole or not at all. If it does, one entity joins the
store and its announcement joins the log, followed by the completions that it brings about. So the
announcements of the log, completions aside, are the entities of the store in the order of their
creation.
-/

namespace EventCorrelation

/-- The completions that an entity brings about: one for every group that an event completes, in the
order in which the groups were created. -/
def MemoryStore.completions (entity : Entity) (store : MemoryStore) : List Publication :=
  match entity with
  | .event made => (store.triggered made).map (.completion · made)
  | _ => []

theorem MemoryStore.Reachable.publications_eq {store : MemoryStore} (reached : store.Reachable)
    (entity : Entity) :
    store.publications entity = .announcement entity :: store.completions entity := by
  cases entity with
  | event made => rw [publications, reached.completedBy_event]; rfl
  | receiver made => rfl
  | group made => rfl

/-- No completion announces an entity. -/
theorem MemoryStore.filterMap_completions (entity : Entity) (store : MemoryStore) :
    (store.completions entity).filterMap Publication.announced? = [] := by
  cases entity with
  | event made => simp [completions, Publication.announced?]
  | receiver made => rfl
  | group made => rfl

theorem MemoryStore.ofEntities_concat (entities : List Entity) (entity : Entity) :
    MemoryStore.ofEntities (entities ++ [entity]) = (MemoryStore.ofEntities entities).add entity := by
  cases entity <;>
    simp [ofEntities, add, Entity.event?, Entity.receiver?, Entity.group?]

namespace EventService

variable {σ τ : Type} {topic : String} {supply : Supply}

/-- Applying a command is carrying it out and forgetting the answer. -/
theorem apply_eq_perform (service : EventService σ) (command : IntakeCommand)
    (state : ServiceState σ τ) :
    service.apply command state =
      ((service.perform command state).1.map fun _ => (), (service.perform command state).2) := by
  cases command with
  | createEvent new =>
    simp only [apply, perform]
    cases service.createEvent new state with
    | mk outcome after => cases outcome <;> rfl
  | createReceiver new =>
    simp only [apply, perform]
    cases service.createReceiver new state with
    | mk outcome after => cases outcome <;> rfl
  | createGroup new =>
    simp only [apply, perform]
    cases service.createGroup new state with
    | mk outcome after => cases outcome <;> rfl

/-- The record takes effect as a whole: it says a command, whose entity joins the store, and whose
announcement joins the log with its completions behind it. -/
structure Accepted (topic : String) (supply : Supply) (record : Record)
    (state after : ServiceState MemoryStore MemoryLog) (entity : Entity) : Prop where
  handled : (inMemory topic supply).handle record state = (.ok (), after)
  asked : ∃ command, record.decode IntakeCommand.decode = .ok command ∧
    entity = command.toEntity (supply.number state.drawn) (supply.time state.drawn)
  store : after.store = state.store.add entity
  log : ∃ announcement completions,
    after.producer.state.records = state.producer.state.records ++ announcement :: completions ∧
    (Publication.announcement entity).CarriedBy topic announcement ∧
    List.Forall₂ (Publication.CarriedBy topic) (after.store.completions entity) completions

/-- What holds between any two records: the store is reachable, the producer is healthy, and the log
carries publications whose announcements are the entities of the store. -/
structure Mirrored (topic : String) (state : ServiceState MemoryStore MemoryLog) : Prop where
  reachable : state.store.Reachable
  healthy : state.producer.Healthy
  log : ∃ entities publications,
    state.store = .ofEntities entities ∧
    List.Forall₂ (Publication.CarriedBy topic) publications state.producer.state.records ∧
    publications.filterMap Publication.announced? = entities

theorem mirrored_fresh (capacity : Nat) : Mirrored topic (.fresh capacity) where
  reachable := .empty
  healthy := Producer.healthy_ofTransport capacity
  log := ⟨[], [], rfl, .nil, rfl⟩

variable {state after : ServiceState MemoryStore MemoryLog}

/-- A record fails and changes nothing, or its command is accepted: then its entity is stored, and
the publications that belong to the entity are made. -/
theorem handle_inMemory (topic : String) (supply : Supply) (record : Record)
    (state : ServiceState MemoryStore MemoryLog) :
    (∃ fault, (inMemory topic supply).handle record state = (.error fault, state)) ∨
      ∃ command entity, record.decode IntakeCommand.decode = .ok command ∧
        state.store.verdict command = .ok () ∧
        entity = command.toEntity (supply.number state.drawn) (supply.time state.drawn) ∧
        (inMemory topic supply).handle record state =
          (.ok (), (inMemory topic supply).publishAll
            ((state.store.add entity).publications entity) (stored entity state)) := by
  cases decoded : record.decode IntakeCommand.decode with
  | error complaint =>
    refine .inl ⟨.undecodable record.position complaint, ?_⟩
    rw [EventService.handle, decoded]
  | ok command =>
    rw [EventService.handle, decoded]
    simp only [apply_eq_perform, perform_inMemory]
    cases judged : state.store.verdict command with
    | error fault => exact .inl ⟨_, rfl⟩
    | ok accepted => exact .inr ⟨command, _, rfl, judged, rfl, rfl⟩

/-- A record that fails changes nothing; any other is accepted as a whole, and the log still mirrors
the store. -/
theorem Mirrored.handle (mirrored : Mirrored topic state) (supply : Supply) (record : Record) :
    (∃ fault, (inMemory topic supply).handle record state = (.error fault, state)) ∨
      ∃ after entity, Accepted topic supply record state after entity ∧ Mirrored topic after := by
  rcases handle_inMemory topic supply record state with
    failed | ⟨command, entity, decoded, accepted, made, handled⟩
  · exact .inl failed
  · obtain ⟨healthy, records, recordsEq, carried⟩ :=
      publishes_publishAll (inMemory topic supply) (stored entity state) mirrored.healthy
        ((state.store.add entity).publications entity)
    generalize afterEq : (inMemory topic supply).publishAll
      ((state.store.add entity).publications entity) (stored entity state) = after at *
    have storeEq : after.store = state.store.add entity := by
      rw [← afterEq, publishAll_store]
      rfl
    have reachable : after.store.Reachable := by
      rw [storeEq, made]
      exact mirrored.reachable.add accepted _ _
    rw [← storeEq] at carried
    obtain ⟨entities, publications, storeOf, carriedBefore, announced⟩ := mirrored.log
    refine .inr ⟨after, entity, ⟨handled, ⟨command, decoded, made⟩, storeEq, ?_⟩,
      reachable, healthy, entities ++ [entity],
      publications ++ after.store.publications entity, ?_, ?_, ?_⟩
    · rw [reachable.publications_eq] at carried
      cases carried with
      | cons announcement completions => exact ⟨_, _, recordsEq, announcement, completions⟩
    · rw [storeEq, storeOf, MemoryStore.ofEntities_concat]
    · rw [recordsEq]
      exact List.rel_append carriedBefore carried
    · rw [reachable.publications_eq, List.filterMap_append, announced, List.filterMap_cons,
        MemoryStore.filterMap_completions]
      rfl

theorem Mirrored.handleAll (mirrored : Mirrored topic state) (supply : Supply)
    (records : List Record) :
    Mirrored topic ((inMemory topic supply).handleAll records state).2 := by
  induction records generalizing state with
  | nil => exact mirrored
  | cons record rest ih =>
    rcases mirrored.handle supply record with ⟨fault, handled⟩ | ⟨after, entity, accepted, next⟩
    · simpa [EventService.handleAll, handled] using ih mirrored
    · simpa [EventService.handleAll, accepted.handled] using ih next

end EventService

end EventCorrelation
