import EventCorrelation.Proofs.Group.Members
import EventCorrelation.Proofs.Identifier.Draws
import EventCorrelation.Proofs.Service.Trigger

/-!
# Integrity of stores

Whatever a service is asked for, its store in memory holds only what fits together: events of known
receivers, groups of known members, and receivers whose fingerprint is the one of their own fields.
As long as no identifier is drawn twice, every entity is found under its identifier, and what is
found once is found unchanged ever after.
-/

namespace EventCorrelation

/-- What a caller would supply to get such a receiver. -/
def Receiver.definition (receiver : Receiver) : NewReceiver where
  name := receiver.name
  type := receiver.type
  version := receiver.version
  description := receiver.description
  schema := receiver.schema

/-- A receiver in the state in which it was created. -/
structure Receiver.Intact (receiver : Receiver) : Prop where
  enabled : receiver.enabled = true
  named : Text.allBlank receiver.name = false
  fingerprint : receiver.fingerprint = receiver.definition.seed.fingerprint

/-- A group in the state in which it was created. -/
structure ReceiverGroup.Intact (group : ReceiverGroup) : Prop where
  nonempty : group.memberIds ≠ []
  nodup : group.memberIds.Nodup
  enabled : group.enabled = true
  updatedAt : group.updatedAt = group.createdAt

namespace MemoryStore

variable {store middle later : MemoryStore}

/-- What the store holds fits together. -/
structure Sound (store : MemoryStore) : Prop where
  eventReceivers : ∀ event ∈ store.events, store.knows event.receiverId = true
  receivers : ∀ receiver ∈ store.receivers, receiver.Intact
  groups : ∀ group ∈ store.groups, group.Intact
  groupMembers : ∀ group ∈ store.groups, ∀ member ∈ group.memberIds, store.knows member = true

/-- Every entity is what is found under its identifier. -/
structure Indexed (store : MemoryStore) : Prop where
  events : ∀ event ∈ store.events, store.findEvent? event.id = some event
  receivers : ∀ receiver ∈ store.receivers, store.findReceiver? receiver.id = some receiver
  groups : ∀ group ∈ store.groups, store.findGroup? group.id = some group

/-- Whatever is found in the store is found unchanged in the later one. -/
structure KeptBy (store later : MemoryStore) : Prop where
  events : ∀ id event, store.findEvent? id = some event → later.findEvent? id = some event
  receivers : ∀ id receiver, store.findReceiver? id = some receiver →
    later.findReceiver? id = some receiver
  groups : ∀ id group, store.findGroup? id = some group → later.findGroup? id = some group

theorem KeptBy.refl (store : MemoryStore) : store.KeptBy store :=
  ⟨fun _ _ found => found, fun _ _ found => found, fun _ _ found => found⟩

theorem KeptBy.trans (first : store.KeptBy middle) (second : middle.KeptBy later) :
    store.KeptBy later where
  events id event found := second.events id event (first.events id event found)
  receivers id receiver found := second.receivers id receiver (first.receivers id receiver found)
  groups id group found := second.groups id group (first.groups id group found)

private theorem find?_append_some {α : Type} {test : α → Bool} {items : List α} {found : α}
    (isFound : items.find? test = some found) (more : List α) :
    (items ++ more).find? test = some found := by
  rw [List.find?_append, isFound]
  rfl

/-- A new entity hides none of the old ones, unless it is a receiver with the identifier of another. -/
theorem keptBy_add (entity : Entity) (store : MemoryStore)
    (fresh : ∀ made ∈ entity.receiver?, made.id ∉ store.receivers.map (·.id)) :
    store.KeptBy (store.add entity) := by
  cases entity with
  | event made =>
    exact ⟨fun _ _ found => find?_append_some found _, fun _ _ found => found,
      fun _ _ found => found⟩
  | receiver made =>
    refine ⟨fun _ _ found => found, fun id receiver found => ?_, fun _ _ found => found⟩
    have isReceiver : receiver ∈ store.receivers :=
      List.mem_reverse.mp (List.mem_of_find?_eq_some found)
    have isFound : receiver.id = id := by simpa using List.find?_some found
    have differs : made.id ≠ id := by
      rintro rfl
      exact fresh made rfl (isFound ▸ List.mem_map_of_mem isReceiver)
    rw [findReceiver?_addReceiver, if_neg differs]
    exact found
  | group made =>
    exact ⟨fun _ _ found => found, fun _ _ found => found,
      fun _ _ found => find?_append_some found _⟩

theorem sound_empty : Sound .empty :=
  ⟨nofun, nofun, nofun, nofun⟩

/-- What an accepted command creates fits to what is there. -/
theorem fits_of_verdict {command : IntakeCommand} (accepted : store.verdict command = .ok ())
    (number : BitVec 128) (now : Timestamp) :
    (∀ event ∈ (command.toEntity number now).event?, store.knows event.receiverId = true) ∧
    (∀ receiver ∈ (command.toEntity number now).receiver?, receiver.Intact) ∧
    ∀ group ∈ (command.toEntity number now).group?, group.Intact ∧
      ∀ member ∈ group.memberIds, store.knows member = true := by
  cases command with
  | createEvent new =>
    refine ⟨?_, by simp [IntakeCommand.toEntity, Entity.receiver?],
      by simp [IntakeCommand.toEntity, Entity.group?]⟩
    rintro event ⟨⟩
    rw [verdict] at accepted
    split at accepted
    · assumption
    · cases accepted
  | createReceiver new =>
    refine ⟨by simp [IntakeCommand.toEntity, Entity.event?], ?_,
      by simp [IntakeCommand.toEntity, Entity.group?]⟩
    rintro receiver ⟨⟩
    rw [verdict] at accepted
    split at accepted
    · cases accepted
    · next named => exact ⟨rfl, eq_false_of_ne_true named, rfl⟩
  | createGroup new =>
    refine ⟨by simp [IntakeCommand.toEntity, Entity.event?],
      by simp [IntakeCommand.toEntity, Entity.receiver?], ?_⟩
    rintro group ⟨⟩
    rw [verdict] at accepted
    split at accepted
    · cases accepted
    · next nonempty =>
      split at accepted
      · cases accepted
      · next noUnknown =>
        refine ⟨⟨?_, new.nodup_members, rfl, rfl⟩, fun member isMember => ?_⟩
        · exact fun empty => nonempty (List.isEmpty_iff.mpr empty)
        · have known := List.find?_eq_none.mp noUnknown member isMember
          simpa using known

theorem Sound.add (sound : store.Sound) {command : IntakeCommand}
    (accepted : store.verdict command = .ok ()) (number : BitVec 128) (now : Timestamp) :
    (store.add (command.toEntity number now)).Sound := by
  obtain ⟨newEvent, newReceiver, newGroup⟩ := fits_of_verdict accepted number now
  refine ⟨?_, ?_, ?_, ?_⟩
  · intro event isEvent
    rw [events_add] at isEvent
    rcases List.mem_append.mp isEvent with old | new
    · exact knows_add _ (sound.eventReceivers event old)
    · exact knows_add _ (newEvent event (Option.mem_toList.mp new))
  · intro receiver isReceiver
    rw [receivers_add] at isReceiver
    rcases List.mem_append.mp isReceiver with old | new
    · exact sound.receivers receiver old
    · exact newReceiver receiver (Option.mem_toList.mp new)
  · intro group isGroup
    rw [groups_add] at isGroup
    rcases List.mem_append.mp isGroup with old | new
    · exact sound.groups group old
    · exact (newGroup group (Option.mem_toList.mp new)).1
  · intro group isGroup member isMember
    rw [groups_add] at isGroup
    rcases List.mem_append.mp isGroup with old | new
    · exact knows_add _ (sound.groupMembers group old member isMember)
    · exact knows_add _ ((newGroup group (Option.mem_toList.mp new)).2 member isMember)

/-- Where keys differ, an item is the first one with its key. -/
private theorem find?_of_nodup {α β : Type} [DecidableEq β] {key : α → β} {items : List α}
    (nodup : (items.map key).Nodup) {item : α} (isItem : item ∈ items) :
    items.find? (fun other => key other == key item) = some item := by
  induction items with
  | nil => cases isItem
  | cons first rest ih =>
    rw [List.map_cons, List.nodup_cons] at nodup
    rcases List.mem_cons.mp isItem with rfl | later
    · exact List.find?_cons_of_pos (beq_self_eq_true _)
    · have differs : key first ≠ key item :=
        fun same => nodup.1 (same ▸ List.mem_map_of_mem later)
      rw [List.find?_cons_of_neg (by simpa using differs)]
      exact ih nodup.2 later

theorem indexed_of_nodup (events : (store.events.map (·.id)).Nodup)
    (receivers : (store.receivers.map (·.id)).Nodup) (groups : (store.groups.map (·.id)).Nodup) :
    store.Indexed := by
  have reversed : (store.receivers.reverse.map (·.id)).Nodup :=
    ((List.reverse_perm store.receivers).map _).nodup_iff.mpr receivers
  exact ⟨fun _ isEvent => find?_of_nodup events isEvent,
    fun _ isReceiver => find?_of_nodup reversed (List.mem_reverse.mpr isReceiver),
    fun _ isGroup => find?_of_nodup groups isGroup⟩

end MemoryStore

namespace EventService

variable {τ : Type} {topic : String} {supply : Supply} {state after : ServiceState MemoryStore τ}

/-- What holds between any two operations: the store is sound, and its entities have the identifiers
of increasing draws. -/
structure Integral (supply : Supply) (state : ServiceState MemoryStore τ) : Prop where
  sound : state.store.Sound
  events : supply.Drawn state.drawn (state.store.events.map (·.id))
  receivers : supply.Drawn state.drawn (state.store.receivers.map (·.id))
  groups : supply.Drawn state.drawn (state.store.groups.map (·.id))

theorem integral_empty (supply : Supply) (producer : Producer τ) :
    Integral supply (⟨.empty, producer, 0⟩ : ServiceState MemoryStore τ) :=
  ⟨MemoryStore.sound_empty, Supply.drawn_nil, Supply.drawn_nil, Supply.drawn_nil⟩

private theorem drawn_concat {α : Type} {kind : EntityKind} {id : α → Identifier kind}
    {items : List α} {item : α} {bound : Nat} (drawn : supply.Drawn bound (items.map id))
    (isNext : id item = supply.id kind bound) :
    supply.Drawn (bound + 1) ((items ++ [item]).map id) := by
  rw [List.map_append, List.map_singleton, isNext]
  exact drawn.concat

theorem Integral.stored (integral : Integral supply state) {command : IntakeCommand}
    (accepted : state.store.verdict command = .ok ()) :
    Integral supply
      (stored (command.toEntity (supply.number state.drawn) (supply.time state.drawn)) state) := by
  have sound := integral.sound.add accepted (supply.number state.drawn) (supply.time state.drawn)
  -- one kind gets the identifier of this draw, the others keep those of earlier ones
  have grows := Nat.le_succ state.drawn
  cases command with
  | createEvent new =>
    exact ⟨sound, drawn_concat integral.events rfl, integral.receivers.mono grows,
      integral.groups.mono grows⟩
  | createReceiver new =>
    exact ⟨sound, integral.events.mono grows, drawn_concat integral.receivers rfl,
      integral.groups.mono grows⟩
  | createGroup new =>
    exact ⟨sound, integral.events.mono grows, integral.receivers.mono grows,
      drawn_concat integral.groups rfl⟩

theorem Integral.publishAll (integral : Integral supply state)
    (service : EventService MemoryStore) (publications : List Publication) :
    Integral supply (service.publishAll publications state) := by
  have grows : state.drawn ≤ (service.publishAll publications state).drawn := by simp
  refine ⟨?_, ?_, ?_, ?_⟩ <;> rw [publishAll_store]
  · exact integral.sound
  · exact integral.events.mono grows
  · exact integral.receivers.mono grows
  · exact integral.groups.mono grows

/-- One operation keeps the store sound, and keeps what is found in it as long as no number is drawn
twice. -/
theorem Integral.perform (integral : Integral supply state) (topic : String)
    (command : IntakeCommand) :
    Integral supply ((inMemory topic supply).perform command state).2 ∧
      (supply.DistinctBelow ((inMemory topic supply).perform command state).2.drawn →
        state.store.KeptBy ((inMemory topic supply).perform command state).2.store) := by
  cases performed : (inMemory topic supply).perform command state with
  | mk outcome after =>
    cases outcome with
    | error fault =>
      obtain ⟨-, rfl⟩ := state_of_perform_error performed
      exact ⟨integral, fun _ => .refl _⟩
    | ok creation =>
      obtain ⟨entity, completed⟩ := creation
      obtain ⟨accepted, made, -, rfl⟩ := state_of_perform_ok performed
      simp only at made
      subst made
      refine ⟨(integral.stored accepted).publishAll _ _, fun distinct => ?_⟩
      have drawnOnce : supply.DistinctBelow (state.drawn + 1) :=
        distinct.mono (by rw [publishAll_drawn]; exact Nat.le_add_right _ _)
      rw [publishAll_store]
      refine MemoryStore.keptBy_add _ _ fun receiver isMade => ?_
      cases command with
      | createReceiver new => cases isMade; exact integral.receivers.next_not_mem drawnOnce
      | createEvent new => cases isMade
      | createGroup new => cases isMade

theorem Integral.performAll (integral : Integral supply state) (topic : String)
    (commands : List IntakeCommand) :
    Integral supply ((inMemory topic supply).performAll commands state).2 ∧
      (supply.DistinctBelow ((inMemory topic supply).performAll commands state).2.drawn →
        state.store.KeptBy ((inMemory topic supply).performAll commands state).2.store) := by
  induction commands generalizing state with
  | nil => exact ⟨integral, fun _ => .refl _⟩
  | cons command rest ih =>
    obtain ⟨integralNext, keptNext⟩ := integral.perform topic command
    obtain ⟨integralLast, keptLast⟩ := ih integralNext
    refine ⟨integralLast, fun distinct => ?_⟩
    have fewer : ((inMemory topic supply).perform command state).2.drawn ≤
        ((inMemory topic supply).performAll (command :: rest) state).2.drawn :=
      drawn_le_performAll rest _
    exact (keptNext (distinct.mono fewer)).trans (keptLast distinct)

/-- Identifiers of different draws make every entity the one that its identifier finds. -/
theorem Integral.indexed (integral : Integral supply state)
    (distinct : supply.DistinctBelow state.drawn) : state.store.Indexed :=
  MemoryStore.indexed_of_nodup (integral.events.nodup distinct)
    (integral.receivers.nodup distinct) (integral.groups.nodup distinct)

/-- Whatever operations lead to a store, what it holds fits together, every entity is found under
its identifier, and whatever is found in it is found unchanged after any further operations. -/
theorem store_sound_and_append_only (topic : String) (supply : Supply) (producer : Producer τ)
    (commands further : List IntakeCommand)
    (distinct : supply.DistinctBelow ((inMemory topic supply).performAll further
      ((inMemory topic supply).performAll commands ⟨.empty, producer, 0⟩).2).2.drawn) :
    let state := ((inMemory topic supply).performAll commands ⟨.empty, producer, 0⟩).2
    let later := ((inMemory topic supply).performAll further state).2
    state.store.Sound ∧ state.store.Indexed ∧ state.store.KeptBy later.store := by
  intro state later
  have integral : Integral supply state :=
    ((integral_empty supply producer).performAll topic commands).1
  have fewer : state.drawn ≤ later.drawn := drawn_le_performAll further state
  exact ⟨integral.sound, integral.indexed (distinct.mono fewer),
    (integral.performAll topic further).2 distinct⟩

theorem gate_sound_and_append_only :
    let service := inMemory "events" .counting
    let state := (service.performAll (gateCommands.take 3)
      (⟨.empty, .disabled (), 0⟩ : ServiceState MemoryStore Unit)).2
    let later := (service.performAll (gateCommands.drop 3) state).2
    state.store.groups.length = 1 ∧ later.store.events.length = 3 ∧
      state.store.Sound ∧ state.store.Indexed ∧ state.store.KeptBy later.store :=
  ⟨rfl, rfl, store_sound_and_append_only "events" .counting (.disabled ()) (gateCommands.take 3)
    (gateCommands.drop 3) (by unfold Supply.DistinctBelow; decide)⟩

end EventService

end EventCorrelation
