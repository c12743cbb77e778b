import EventCorrelation.Proofs.Group.Members
import EventCorrelation.Proofs.Service.Perform

/-!
# Prechecks

The service looks up what a request refers to before it asks the store, and the store looks again.
Over a store in memory the two never disagree: a request gets through the service just if the store
takes it, and is refused for the same reason. Only the name of a receiver is checked by the service
alone.
-/

namespace EventCorrelation

namespace MemoryStore

/-- Why a group is refused: it has no members, or one of them is unknown, and the first such member
is named. -/
inductive RefusesGroup (store : MemoryStore) (new : NewGroup) : StoreFault → Prop
  | noMembers (empty : new.memberIds = []) : RefusesGroup store new .emptyGroup
  | unknownMember (before : List ReceiverId) (member : ReceiverId) (after : List ReceiverId)
      (members : new.memberIds = before ++ member :: after)
      (known : ∀ other ∈ before, store.knows other = true)
      (unknown : store.knows member = false) :
      RefusesGroup store new (.unknownReceiver member)

variable {store : MemoryStore} {new : NewGroup} {reason : StoreFault}

theorem find?_unknown_eq_some_iff {member : ReceiverId} :
    new.members.find? (!store.knows ·) = some member ↔
      store.knows member = false ∧ ∃ before after, new.memberIds = before ++ member :: after ∧
        ∀ other ∈ before, store.knows other = true := by
  rw [NewGroup.members_eq_eraseDups, find?_eraseDups, List.find?_eq_some_iff_append]
  simp

/-- The lookup among the members, each once, finds what stands first among those given. -/
theorem refusesGroup_iff :
    store.RefusesGroup new reason ↔
      (new.memberIds = [] ∧ reason = .emptyGroup) ∨
        ∃ member, new.members.find? (!store.knows ·) = some member ∧
          reason = .unknownReceiver member := by
  constructor
  · intro refuses
    cases refuses with
    | noMembers empty => exact .inl ⟨empty, rfl⟩
    | unknownMember before member after members known unknown =>
      exact .inr ⟨member, find?_unknown_eq_some_iff.mpr ⟨unknown, before, after, members, known⟩, rfl⟩
  · rintro (⟨empty, rfl⟩ | ⟨member, found, rfl⟩)
    · exact .noMembers empty
    · obtain ⟨unknown, before, after, members, known⟩ := find?_unknown_eq_some_iff.mp found
      exact .unknownMember before member after members known unknown

theorem createGroup_error_iff (id : GroupId) (now : Timestamp) :
    (store.createGroup id now new).1 = .error reason ↔ store.RefusesGroup new reason := by
  rw [refusesGroup_iff, ← NewGroup.isEmpty_members]
  unfold createGroup
  split
  · next empty =>
    rw [List.isEmpty_iff.mp empty]
    simp [eq_comm]
  · next nonempty =>
    cases found : new.members.find? (!store.knows ·) <;> simp [nonempty, eq_comm]

/-- What the verdict refuses is refused by the store. -/
theorem createGroup_of_refused (refused : store.verdict (.createGroup new) = .error (.store reason))
    (id : GroupId) (now : Timestamp) : store.createGroup id now new = (.error reason, store) := by
  simp only [verdict] at refused
  split at refused
  · next empty =>
    cases refused
    simp [createGroup, empty]
  · next nonempty =>
    split at refused
    · next found =>
      cases refused
      simp [createGroup, nonempty, found]
    · cases refused

theorem createEvent_error_iff {new : NewEvent} (id : EventId) (now : Timestamp) :
    (store.createEvent id now new).1 = .error reason ↔
      store.knows new.receiverId = false ∧ reason = .unknownReceiver new.receiverId := by
  unfold createEvent
  cases known : store.knows new.receiverId <;> simp [eq_comm]

end MemoryStore

namespace EventService

variable {τ : Type} (topic : String) (supply : Supply) (state : ServiceState MemoryStore τ)

/-- Creating a group comes to what the store makes of it. -/
theorem createGroup_eq_store (new : NewGroup) :
    let made := state.store.createGroup (supply.id .group state.drawn) (supply.time state.drawn) new
    ((inMemory topic supply).createGroup new state).1 = made.1.mapError .store ∧
      ((inMemory topic supply).createGroup new state).2.store = made.2 := by
  intro made
  cases judged : state.store.verdict (.createGroup new) with
  | ok accepted =>
    have created : made = _ := MemoryStore.createGroup_of_verdict judged _ _
    rw [createGroup_inMemory topic supply new state judged, created, publishAll_store]
    exact ⟨rfl, rfl⟩
  | error fault =>
    obtain ⟨reason, rfl, refused⟩ := checkMembers_of_refused topic supply new state judged
    have created : made = _ := MemoryStore.createGroup_of_refused judged _ _
    rw [createGroup, refused, created]
    exact ⟨rfl, rfl⟩

theorem createEvent_eq_store (new : NewEvent) :
    let made := state.store.createEvent (supply.id .event state.drawn) (supply.time state.drawn) new
    ((inMemory topic supply).createEvent new state).1.map (·.event) = made.1.mapError .store ∧
      ((inMemory topic supply).createEvent new state).2.store = made.2 := by
  intro made
  cases known : state.store.knows new.receiverId with
  | true =>
    have accepted : state.store.verdict (.createEvent new) = .ok () := by
      simp [MemoryStore.verdict, known]
    have created : made = _ := MemoryStore.createEvent_of_verdict accepted _ _
    rw [createEvent_inMemory topic supply new state accepted, created, publishAll_store]
    exact ⟨rfl, rfl⟩
  | false =>
    have created : made = (.error (.unknownReceiver new.receiverId), state.store) := by
      simp [made, MemoryStore.createEvent, known]
    have refused := requireReceiver_inMemory topic supply new.receiverId state
    rw [if_neg (by simp [known])] at refused
    rw [createEvent, refused, created]
    exact ⟨rfl, rfl⟩

theorem createReceiver_eq_store (new : NewReceiver) (named : Text.allBlank new.name = false) :
    let made :=
      state.store.createReceiver (supply.id .receiver state.drawn) (supply.time state.drawn) new
    ((inMemory topic supply).createReceiver new state).1 = made.1.mapError .store ∧
      ((inMemory topic supply).createReceiver new state).2.store = made.2 := by
  intro made
  rw [createReceiver_inMemory topic supply new state named, publishAll_store]
  exact ⟨rfl, rfl⟩

/-- A store in memory refuses a group without members, and one of whose members some are unknown, for
the first of these; it refuses an event of an unknown receiver. Whatever it holds, the service answers
a request for a group or an event as the store does, and the store is then as if it had been asked
directly. The service alone refuses receivers without a name, and no others. -/
theorem prechecks_agree_with_store :
    (∀ (new : NewGroup) id now reason,
      (state.store.createGroup id now new).1 = .error reason ↔
        state.store.RefusesGroup new reason) ∧
    (∀ (new : NewEvent) id now reason,
      (state.store.createEvent id now new).1 = .error reason ↔
        state.store.knows new.receiverId = false ∧ reason = .unknownReceiver new.receiverId) ∧
    let service := inMemory topic supply
    (∀ new : NewGroup,
      let made :=
        state.store.createGroup (supply.id .group state.drawn) (supply.time state.drawn) new
      (service.createGroup new state).1 = made.1.mapError .store ∧
        (service.createGroup new state).2.store = made.2) ∧
    (∀ new : NewEvent,
      let made :=
        state.store.createEvent (supply.id .event state.drawn) (supply.time state.drawn) new
      (service.createEvent new state).1.map (·.event) = made.1.mapError .store ∧
        (service.createEvent new state).2.store = made.2) ∧
    ∀ new : NewReceiver,
      if Text.allBlank new.name then
        service.createReceiver new state =
          (.error (.invalid "event receiver name is required"), state)
      else
        let made :=
          state.store.createReceiver (supply.id .receiver state.drawn) (supply.time state.drawn) new
        (service.createReceiver new state).1 = made.1.mapError .store ∧
          (service.createReceiver new state).2.store = made.2 := by
  refine ⟨fun new id now reason => MemoryStore.createGroup_error_iff id now,
    fun new id now reason => MemoryStore.createEvent_error_iff id now,
    createGroup_eq_store topic supply state, createEvent_eq_store topic supply state, ?_⟩
  intro new
  split
  · next blank => rw [createReceiver, if_pos blank]
  · next named =>
    exact createReceiver_eq_store topic supply state new (eq_false_of_ne_true named)

end EventService

end EventCorrelation
