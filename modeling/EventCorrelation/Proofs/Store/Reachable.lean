import EventCorrelation.Service.History

/-!
# Reachable stores

What the stores in memory have in common that come about by creating events, receivers and groups:
every group is enabled. Successes and complete groups are described here by the events that a store
holds, and both stay when more events arrive.
-/

namespace EventCorrelation.MemoryStore

variable {store later : MemoryStore} {group : ReceiverGroup} {id : ReceiverId}

/-- The stores that creating entities leads to. -/
inductive Reachable : MemoryStore → Prop
  | empty : Reachable .empty
  | createEvent (id : EventId) (now : Timestamp) (new : NewEvent) {store : MemoryStore}
      (reached : Reachable store) : Reachable (store.createEvent id now new).2
  | createReceiver (id : ReceiverId) (now : Timestamp) (new : NewReceiver) {store : MemoryStore}
      (reached : Reachable store) : Reachable (store.createReceiver id now new).2
  | createGroup (id : GroupId) (now : Timestamp) (new : NewGroup) {store : MemoryStore}
      (reached : Reachable store) : Reachable (store.createGroup id now new).2

@[simp]
theorem events_add (entity : Entity) (store : MemoryStore) :
    (store.add entity).events = store.events ++ entity.event?.toList := by
  cases entity <;> simp [add, Entity.event?]

@[simp]
theorem groups_add (entity : Entity) (store : MemoryStore) :
    (store.add entity).groups = store.groups ++ entity.group?.toList := by
  cases entity <;> simp [add, Entity.group?]

@[simp]
theorem receivers_add (entity : Entity) (store : MemoryStore) :
    (store.add entity).receivers = store.receivers ++ entity.receiver?.toList := by
  cases entity <;> simp [add, Entity.receiver?]

/-- A new receiver is found under its identifier, whatever was found there before, and under no
other. -/
theorem findReceiver?_addReceiver (made : Receiver) (store : MemoryStore) (id : ReceiverId) :
    (store.add (.receiver made)).findReceiver? id =
      if made.id = id then some made else store.findReceiver? id := by
  rw [findReceiver?, add, List.reverse_concat, List.find?_cons]
  by_cases same : made.id = id
  · rw [if_pos same, beq_iff_eq.mpr same]
  · rw [if_neg same, beq_eq_false_iff_ne.mpr same]
    rfl

theorem knows_add (entity : Entity) (known : store.knows id = true) :
    (store.add entity).knows id = true := by
  cases entity with
  | event made => exact known
  | group made => exact known
  | receiver made =>
    rw [knows, findReceiver?_addReceiver]
    split
    · rfl
    · exact known

theorem createGroup_of_verdict {new : NewGroup} (accepted : store.verdict (.createGroup new) = .ok ())
    (id : GroupId) (now : Timestamp) :
    store.createGroup id now new =
      (.ok (new.toGroup id now), store.add (.group (new.toGroup id now))) := by
  simp only [verdict] at accepted
  split at accepted
  · cases accepted
  · next nonempty =>
    split at accepted
    · cases accepted
    · next noUnknown => simp [createGroup, nonempty, noUnknown, add]

theorem createEvent_of_verdict {new : NewEvent} (accepted : store.verdict (.createEvent new) = .ok ())
    (id : EventId) (now : Timestamp) :
    store.createEvent id now new =
      (.ok (new.toEvent id now), store.add (.event (new.toEvent id now))) := by
  simp only [verdict] at accepted
  split at accepted
  · next known => simp [createEvent, known, add]
  · cases accepted

/-- An accepted command leads from one reachable store to another. -/
theorem Reachable.add (reached : Reachable store) {command : IntakeCommand}
    (accepted : store.verdict command = .ok ()) (number : BitVec 128) (now : Timestamp) :
    Reachable (store.add (command.toEntity number now)) := by
  cases command with
  | createEvent new =>
    have created := createEvent_of_verdict accepted ⟨number⟩ now
    have next := reached.createEvent ⟨number⟩ now new
    rwa [created] at next
  | createReceiver new => exact reached.createReceiver ⟨number⟩ now new
  | createGroup new =>
    have created := createGroup_of_verdict accepted ⟨number⟩ now
    have next := reached.createGroup ⟨number⟩ now new
    rwa [created] at next

/-- Groups are created enabled, and nothing switches them off. -/
theorem Reachable.enabled (reached : Reachable store) :
    ∀ group ∈ store.groups, group.enabled = true := by
  induction reached with
  | empty => simp [MemoryStore.empty]
  | createEvent id now new reached ih =>
    unfold MemoryStore.createEvent
    split
    · exact ih
    · exact ih
  | createReceiver id now new reached ih => exact ih
  | createGroup id now new reached ih =>
    unfold MemoryStore.createGroup
    split
    · exact ih
    · split
      · exact ih
      · intro group member
        rcases List.mem_append.mp member with old | new
        · exact ih group old
        · rw [List.mem_singleton.mp new]
          rfl

theorem hasSuccess_iff :
    store.hasSuccess id = true ↔
      ∃ event ∈ store.events, event.success = true ∧ event.receiverId = id := by
  simp [hasSuccess]

theorem isComplete_iff :
    store.isComplete group = true ↔
      group.memberIds ≠ [] ∧ ∀ member ∈ group.memberIds, store.hasSuccess member = true := by
  simp [isComplete]

theorem mem_triggered {event : Event} :
    group ∈ store.triggered event ↔
      group ∈ store.groups ∧ event.receiverId ∈ group.memberIds ∧
        store.isComplete group = true := by
  simp [triggered, ReceiverGroup.contains, and_comm]

theorem hasSuccess_mono (grows : store.events ⊆ later.events)
    (success : store.hasSuccess id = true) : later.hasSuccess id = true := by
  obtain ⟨event, member, succeeded⟩ := hasSuccess_iff.mp success
  exact hasSuccess_iff.mpr ⟨event, grows member, succeeded⟩

theorem isComplete_mono (grows : store.events ⊆ later.events)
    (complete : store.isComplete group = true) : later.isComplete group = true := by
  obtain ⟨nonempty, successes⟩ := isComplete_iff.mp complete
  exact isComplete_iff.mpr
    ⟨nonempty, fun member isMember => hasSuccess_mono grows (successes member isMember)⟩

/-- Only an event of a member can complete a group. -/
theorem mem_of_isComplete_add {event : Event}
    (incomplete : store.isComplete group = false)
    (complete : (store.add (.event event)).isComplete group = true) :
    event.receiverId ∈ group.memberIds := by
  by_cases isMember : event.receiverId ∈ group.memberIds
  · exact isMember
  · obtain ⟨nonempty, successes⟩ := isComplete_iff.mp complete
    have before : store.isComplete group = true := by
      refine isComplete_iff.mpr ⟨nonempty, fun member listed => ?_⟩
      obtain ⟨witness, stored, success, sameReceiver⟩ :=
        hasSuccess_iff.mp (successes member listed)
      rw [events_add] at stored
      rcases List.mem_append.mp stored with old | new
      · exact hasSuccess_iff.mpr ⟨witness, old, success, sameReceiver⟩
      · have sameEvent : witness = event := by simpa [Entity.event?] using new
        rw [← sameEvent, sameReceiver] at isMember
        exact (isMember listed).elim
    rw [before] at incomplete
    cases incomplete

/-- In a reachable store, all groups that an event completes are announced. -/
theorem Reachable.completedBy_event (reached : Reachable store) (event : Event) :
    store.completedBy (.event event) = store.triggered event := by
  refine List.filter_eq_self.mpr fun group member => ?_
  exact reached.enabled group (mem_triggered.mp member).1

end EventCorrelation.MemoryStore
