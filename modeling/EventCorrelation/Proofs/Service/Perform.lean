import EventCorrelation.Proofs.Store.Reachable

/-!
# What a command does

Over a store in memory, carrying out a command either leaves everything as it was, with the fault
that the verdict of the store names, or it adds exactly one entity and then publishes what belongs
to it. The state of the bus has no say in this.
-/

namespace EventCorrelation.EventService

variable {τ : Type} (topic : String) (supply : Supply)

/-- The state once an entity is stored and nothing is published yet. -/
def stored (entity : Entity) (state : ServiceState MemoryStore τ) : ServiceState MemoryStore τ :=
  ⟨state.store.add entity, state.producer, state.drawn + 1⟩

theorem requireReceiver_inMemory (id : ReceiverId) (state : ServiceState MemoryStore τ) :
    (inMemory topic supply).requireReceiver id state =
      if state.store.knows id then .ok () else .error (.unknownReceiver id) := by
  have looked : (inMemory topic supply).store.findReceiver id state.store =
      .ok (state.store.findReceiver? id) := rfl
  rw [requireReceiver, looked, MemoryStore.knows]
  cases found : state.store.findReceiver? id with
  | none => rfl
  | some receiver => rfl

/-- The lookups one after the other end at the first unknown receiver. -/
theorem forM_requireReceiver_inMemory (members : List ReceiverId)
    (state : ServiceState MemoryStore τ) :
    (members.forM fun id => (inMemory topic supply).requireReceiver id state) =
      match members.find? (!state.store.knows ·) with
      | some unknown => .error (.unknownReceiver unknown)
      | none => .ok () := by
  induction members with
  | nil => rfl
  | cons first rest ih =>
    rw [List.forM_eq_forM, List.forM_cons, ← List.forM_eq_forM, ih, requireReceiver_inMemory]
    cases known : state.store.knows first with
    | true =>
      rw [List.find?_cons_of_neg (by simp [known])]
      rfl
    | false =>
      rw [List.find?_cons_of_pos (by simp [known])]
      rfl

/-- Of the groups that an event completes, the enabled ones are announced. -/
theorem announceCompletions_eq {σ : Type} (service : EventService σ) (event : Event)
    (groups : List ReceiverGroup) (state : ServiceState σ τ) :
    service.announceCompletions event groups state =
      ((groups.filter (·.enabled)).map (·.id),
        service.publishAll ((groups.filter (·.enabled)).map (.completion · event)) state) := by
  induction groups generalizing state with
  | nil => rfl
  | cons group rest ih =>
    rw [announceCompletions, announceCompletion]
    cases enabled : group.enabled with
    | true =>
      rw [List.filter_cons_of_pos enabled]
      simp only [if_true, ih]
      rfl
    | false =>
      rw [List.filter_cons_of_neg (by simp [enabled])]
      simp only [Bool.false_eq_true, if_false, ih, List.nil_append]

theorem createEvent_inMemory (new : NewEvent) (state : ServiceState MemoryStore τ)
    (accepted : state.store.verdict (.createEvent new) = .ok ()) :
    let event := new.toEvent ⟨supply.number state.drawn⟩ (supply.time state.drawn)
    let groups := (state.store.add (.event event)).completedBy (.event event)
    (inMemory topic supply).createEvent new state =
      (.ok ⟨event, groups.map (·.id)⟩,
        (inMemory topic supply).publishAll
          ((state.store.add (.event event)).publications (.event event))
          (stored (.event event) state)) := by
  intro event groups
  have known : state.store.knows new.receiverId = true := by
    simp only [MemoryStore.verdict] at accepted
    split at accepted
    · assumption
    · cases accepted
  have created := MemoryStore.createEvent_of_verdict accepted
    ⟨supply.number state.drawn⟩ (supply.time state.drawn)
  have storedEvent : (inMemory topic supply).storeEvent new state =
      (.ok event, stored (.event event) state) := by
    simp only [storeEvent, inMemory, MemoryStore.store, Supply.id, created]
    rfl
  rw [createEvent, requireReceiver_inMemory, if_pos known]
  simp only [storedEvent, publishCompletions, announceCompletions_eq]
  rfl

theorem createReceiver_inMemory (new : NewReceiver) (state : ServiceState MemoryStore τ)
    (named : Text.allBlank new.name = false) :
    let receiver := new.toReceiver ⟨supply.number state.drawn⟩ (supply.time state.drawn)
    (inMemory topic supply).createReceiver new state =
      (.ok receiver,
        (inMemory topic supply).publishAll
          ((state.store.add (.receiver receiver)).publications (.receiver receiver))
          (stored (.receiver receiver) state)) := by
  intro receiver
  rw [createReceiver, if_neg (by simp [named])]
  rfl

theorem createGroup_inMemory (new : NewGroup) (state : ServiceState MemoryStore τ)
    (accepted : state.store.verdict (.createGroup new) = .ok ()) :
    let group := new.toGroup ⟨supply.number state.drawn⟩ (supply.time state.drawn)
    (inMemory topic supply).createGroup new state =
      (.ok group,
        (inMemory topic supply).publishAll
          ((state.store.add (.group group)).publications (.group group))
          (stored (.group group) state)) := by
  intro group
  have created := MemoryStore.createGroup_of_verdict accepted
    ⟨supply.number state.drawn⟩ (supply.time state.drawn)
  have checked : (inMemory topic supply).checkMembers new.members state = .ok () := by
    rw [checkMembers, forM_requireReceiver_inMemory]
    rw [MemoryStore.verdict] at accepted
    by_cases empty : new.members.isEmpty = true
    · rw [if_pos empty] at accepted
      cases accepted
    · rw [if_neg empty] at accepted ⊢
      cases found : new.members.find? (!state.store.knows ·) with
      | some unknown =>
        rw [found] at accepted
        cases accepted
      | none => rfl
  rw [createGroup, checked]
  simp only [inMemory, MemoryStore.store, Supply.id, created]
  rfl

/-- A refused group is refused when its members are looked up. -/
theorem checkMembers_of_refused (new : NewGroup) (state : ServiceState MemoryStore τ)
    {fault : ServiceFault} (refused : state.store.verdict (.createGroup new) = .error fault) :
    ∃ reason, fault = .store reason ∧
      (inMemory topic supply).checkMembers new.members state = .error reason := by
  rw [MemoryStore.verdict] at refused
  rw [checkMembers, forM_requireReceiver_inMemory]
  by_cases empty : new.members.isEmpty = true
  · rw [if_pos empty] at refused ⊢
    cases refused
    exact ⟨_, rfl, rfl⟩
  · rw [if_neg empty] at refused ⊢
    cases found : new.members.find? (!state.store.knows ·) with
    | some unknown =>
      rw [found] at refused
      cases refused
      exact ⟨_, rfl, rfl⟩
    | none =>
      rw [found] at refused
      cases refused

/-- A command does nothing but answer with the fault that the store's verdict names, or it adds one
entity and publishes what belongs to it. -/
theorem perform_inMemory (command : IntakeCommand) (state : ServiceState MemoryStore τ) :
    (inMemory topic supply).perform command state =
      match state.store.verdict command with
      | .error fault => (.error fault, state)
      | .ok () =>
        let entity := command.toEntity (supply.number state.drawn) (supply.time state.drawn)
        let store := state.store.add entity
        (.ok ⟨entity, (store.completedBy entity).map (·.id)⟩,
          (inMemory topic supply).publishAll (store.publications entity) (stored entity state)) := by
  cases command with
  | createEvent new =>
    cases judged : state.store.verdict (.createEvent new) with
    | ok accepted =>
      simp only [perform, createEvent_inMemory topic supply new state judged]
      rfl
    | error fault =>
      simp only [MemoryStore.verdict] at judged
      split at judged
      · cases judged
      · next unknown =>
        cases judged
        simp only [perform, createEvent, requireReceiver_inMemory, if_neg unknown]
        rfl
  | createReceiver new =>
    cases blank : Text.allBlank new.name with
    | true =>
      simp only [perform, createReceiver, MemoryStore.verdict, if_pos blank]
      rfl
    | false =>
      simp only [perform, createReceiver_inMemory topic supply new state blank,
        MemoryStore.verdict, blank]
      rfl
  | createGroup new =>
    cases judged : state.store.verdict (.createGroup new) with
    | ok accepted =>
      simp only [perform, createGroup_inMemory topic supply new state judged]
      rfl
    | error fault =>
      obtain ⟨reason, rfl, refused⟩ := checkMembers_of_refused topic supply new state judged
      simp only [perform, createGroup, refused]
      rfl

variable {topic supply} {command : IntakeCommand} {state after : ServiceState MemoryStore τ}
  {creation : Creation}

/-- A command that fails changes nothing. -/
theorem state_of_perform_error {fault : ServiceFault}
    (performed : (inMemory topic supply).perform command state = (.error fault, after)) :
    state.store.verdict command = .error fault ∧ after = state := by
  rw [perform_inMemory] at performed
  split at performed
  · next judged => cases performed; exact ⟨judged, rfl⟩
  · cases performed

/-- A command that succeeds adds the entity it answers with and publishes what belongs to it. -/
theorem state_of_perform_ok
    (performed : (inMemory topic supply).perform command state = (.ok creation, after)) :
    state.store.verdict command = .ok () ∧
      creation.entity = command.toEntity (supply.number state.drawn) (supply.time state.drawn) ∧
      creation.completed =
        ((state.store.add creation.entity).completedBy creation.entity).map (·.id) ∧
      after = (inMemory topic supply).publishAll
        ((state.store.add creation.entity).publications creation.entity)
        (stored creation.entity state) := by
  rw [perform_inMemory] at performed
  split at performed
  · cases performed
  · next judged => cases performed; exact ⟨judged, rfl, rfl, rfl⟩

/-- Publishing leaves the store alone. -/
@[simp]
theorem publishAll_store {σ : Type} (service : EventService σ) (publications : List Publication)
    (state : ServiceState σ τ) : (service.publishAll publications state).store = state.store := by
  induction publications generalizing state with
  | nil => rfl
  | cons publication rest ih => exact ih _

/-- Every message takes one draw. -/
@[simp]
theorem publishAll_drawn {σ : Type} (service : EventService σ) (publications : List Publication)
    (state : ServiceState σ τ) :
    (service.publishAll publications state).drawn = state.drawn + publications.length := by
  induction publications generalizing state with
  | nil => rfl
  | cons publication rest ih =>
    calc
      (service.publishAll (publication :: rest) state).drawn =
          (service.publish state publication).drawn + rest.length := ih _
      _ = state.drawn + (publication :: rest).length := by
        simp only [publish, announce, List.length_cons]
        omega

end EventCorrelation.EventService
