import EventCorrelation.Proofs.Group.Members
import EventCorrelation.Proofs.Identifier.Draws
import EventCorrelation.Proofs.Service.Announcements

/-!
# Redelivery

Which groups a service announces depends on the set of events that it is given, and not on their
order or on how often one of them is delivered. What does depend on these is which event announces a
group, and how often that happens. So runs are not compared step by step: the groups announced so
far are read off the store that a run has led to, as those that have become complete. That they are
announced is said of the log: records with their completions join it in the course of the run.
-/

namespace EventCorrelation

/-- The same group, whose members are listed in another order or repeatedly. -/
def ReceiverGroup.Relists (group relisted : ReceiverGroup) : Prop :=
  ∃ memberIds, relisted = { group with memberIds } ∧ ∀ id, id ∈ memberIds ↔ id ∈ group.memberIds

namespace ReceiverGroup.Relists

variable {group relisted : ReceiverGroup} (relists : group.Relists relisted)

include relists

theorem symm : relisted.Relists group := by
  obtain ⟨memberIds, rfl, same⟩ := relists
  exact ⟨group.memberIds, rfl, fun id => (same id).symm⟩

theorem enabled_eq : relisted.enabled = group.enabled := by
  obtain ⟨memberIds, rfl, -⟩ := relists
  rfl

theorem mem_iff (id : ReceiverId) : id ∈ relisted.memberIds ↔ id ∈ group.memberIds := by
  obtain ⟨memberIds, rfl, same⟩ := relists
  exact same id

end ReceiverGroup.Relists

namespace MemoryStore

variable {store other : MemoryStore} {group : ReceiverGroup} {id : GroupId}

/-- Two stores that differ only in how the members of their groups are listed. -/
structure Relists (store other : MemoryStore) : Prop where
  events : other.events = store.events
  receivers : other.receivers = store.receivers
  groups : List.Forall₂ ReceiverGroup.Relists store.groups other.groups

theorem Relists.refl (store : MemoryStore) : store.Relists store :=
  ⟨rfl, rfl, List.forall₂_same.mpr fun group _ => ⟨group.memberIds, rfl, fun _ => Iff.rfl⟩⟩

theorem Relists.symm (relists : store.Relists other) : other.Relists store :=
  ⟨relists.events.symm, relists.receivers.symm,
    (relists.groups.imp fun _ _ related => related.symm).flip⟩

theorem Relists.knows_eq (relists : store.Relists other) (id : ReceiverId) :
    other.knows id = store.knows id := by
  rw [knows, knows, findReceiver?, findReceiver?, relists.receivers]

theorem Relists.exists_group (relists : store.Relists other) (present : group ∈ store.groups) :
    ∃ relisted ∈ other.groups, group.Relists relisted :=
  exists_of_mem_left relists.groups present

/-- Asking for a group with its members in another order, or with repetitions, comes to the same. -/
theorem Relists.createGroup (relists : store.Relists other) (id : GroupId) (now : Timestamp)
    {new : NewGroup} {memberIds : List ReceiverId}
    (same : ∀ id, id ∈ memberIds ↔ id ∈ new.memberIds) :
    (store.createGroup id now new).2.Relists
      (other.createGroup id now { new with memberIds }).2 := by
  have sameMembers (member : ReceiverId) :
      member ∈ NewGroup.members { new with memberIds } ↔ member ∈ new.members := by
    rw [NewGroup.mem_members, NewGroup.mem_members, same]
  have sameEmpty : (NewGroup.members { new with memberIds }).isEmpty = new.members.isEmpty := by
    rw [Bool.eq_iff_iff, List.isEmpty_iff, List.isEmpty_iff, List.eq_nil_iff_forall_not_mem,
      List.eq_nil_iff_forall_not_mem]
    exact forall_congr' fun member => not_congr (sameMembers member)
  unfold MemoryStore.createGroup
  rw [sameEmpty]
  split
  · exact relists
  · have sameKnown : (NewGroup.members { new with memberIds }).find? (!other.knows ·) = none ↔
        new.members.find? (!store.knows ·) = none := by
      simp only [List.find?_eq_none, relists.knows_eq, sameMembers]
    cases found : new.members.find? (!store.knows ·) with
    | none =>
      rw [sameKnown.mpr found]
      refine ⟨relists.events, relists.receivers, ?_⟩
      refine List.rel_append relists.groups (.cons ?_ .nil)
      exact ⟨_, rfl, sameMembers⟩
    | some unknown =>
      cases foundOther : (NewGroup.members { new with memberIds }).find? (!other.knows ·) with
      | none =>
        rw [sameKnown.mp foundOther] at found
        cases found
      | some otherUnknown => exact relists

/-- Every group of the store can be announced at some time: it is enabled, and it has members, all of
which are known. -/
structure WellGrouped (store : MemoryStore) : Prop where
  enabled : ∀ group ∈ store.groups, group.enabled = true
  nonempty : ∀ group ∈ store.groups, group.memberIds ≠ []
  known : ∀ group ∈ store.groups, ∀ member ∈ group.memberIds, store.knows member = true

theorem WellGrouped.relists (grouped : store.WellGrouped) (relists : store.Relists other) :
    other.WellGrouped := by
  refine ⟨fun relisted present => ?_, fun relisted present empty => ?_,
    fun relisted present member isMember => ?_⟩
  all_goals obtain ⟨group, there, related⟩ := relists.symm.exists_group present
  · rw [← related.enabled_eq]
    exact grouped.enabled group there
  · apply grouped.nonempty group there
    rw [List.eq_nil_iff_forall_not_mem]
    intro member isMember
    rw [related.mem_iff, empty] at isMember
    cases isMember
  · rw [relists.knows_eq]
    exact grouped.known group there member ((related.mem_iff member).mpr isMember)

/-- The identifiers of the complete groups. -/
def completeIds (store : MemoryStore) : List GroupId :=
  (store.groups.filter (store.isComplete ·)).map (·.id)

theorem mem_completeIds :
    id ∈ store.completeIds ↔
      ∃ group ∈ store.groups, group.id = id ∧ store.isComplete group = true := by
  simp only [completeIds, List.mem_map, List.mem_filter]
  constructor
  · rintro ⟨group, ⟨present, complete⟩, rfl⟩
    exact ⟨group, present, rfl, complete⟩
  · rintro ⟨group, present, rfl, complete⟩
    exact ⟨group, ⟨present, complete⟩, rfl⟩

/-- What an event that is delivered does to a store, and the groups that the answer names as
complete. -/
inductive Receives (store : MemoryStore) (new : NewEvent) : List GroupId → MemoryStore → Prop where
  | refused (unknown : store.knows new.receiverId = false) : Receives store new [] store
  | stored (event : Event) (known : store.knows new.receiverId = true)
      (success : event.success = new.success) (receiver : event.receiverId = new.receiverId) :
    Receives store new (((store.add (.event event)).completedBy (.event event)).map (·.id))
      (store.add (.event event))

namespace Receives

variable {new : NewEvent} {completed : List GroupId} {after : MemoryStore}

theorem groups_eq (receives : store.Receives new completed after) :
    after.groups = store.groups := by
  cases receives <;> rfl

theorem receivers_eq (receives : store.Receives new completed after) :
    after.receivers = store.receivers := by
  cases receives <;> rfl

theorem knows_eq (receives : store.Receives new completed after) (id : ReceiverId) :
    after.knows id = store.knows id := by
  rw [knows, knows, findReceiver?, findReceiver?, receives.receivers_eq]

/-- A known receiver has a success afterwards if it had one before, or if this event is one. -/
theorem hasSuccess_iff (receives : store.Receives new completed after) {id : ReceiverId}
    (known : store.knows id = true) :
    after.hasSuccess id = true ↔
      store.hasSuccess id = true ∨ new.success = true ∧ new.receiverId = id := by
  cases receives with
  | refused unknown =>
    constructor
    · exact .inl
    · rintro (before | ⟨-, rfl⟩)
      · exact before
      · rw [known] at unknown
        cases unknown
  | stored event _ success receiver =>
    simp only [MemoryStore.hasSuccess_iff, events_add, Entity.event?, Option.toList_some,
      List.mem_append, List.mem_singleton]
    constructor
    · rintro ⟨other, old | rfl, holds⟩
      · exact .inl ⟨other, old, holds⟩
      · rw [success, receiver] at holds
        exact .inr holds
    · rintro (⟨other, old, holds⟩ | holds)
      · exact ⟨other, .inl old, holds⟩
      · rw [← success, ← receiver] at holds
        exact ⟨event, .inr rfl, holds⟩

/-- The groups that are complete afterwards were complete before, or are named. -/
theorem mem_completeIds_iff (receives : store.Receives new completed after)
    (grouped : store.WellGrouped) :
    id ∈ after.completeIds ↔ id ∈ completed ∨ id ∈ store.completeIds := by
  cases receives with
  | refused => simp
  | stored event =>
    simp only [mem_completeIds, List.mem_map, completedBy, List.mem_filter]
    constructor
    · rintro ⟨group, present, rfl, complete⟩
      have wasPresent : group ∈ store.groups := by simpa [Entity.group?] using present
      cases before : store.isComplete group with
      | true => exact .inr ⟨group, wasPresent, rfl, before⟩
      | false =>
        have isMember := mem_of_isComplete_add before complete
        refine .inl ⟨group, ⟨?_, grouped.enabled group wasPresent⟩, rfl⟩
        exact mem_triggered.mpr ⟨present, isMember, complete⟩
    · rintro (⟨group, ⟨triggers, -⟩, rfl⟩ | ⟨group, present, rfl, complete⟩)
      · obtain ⟨present, -, complete⟩ := mem_triggered.mp triggers
        exact ⟨group, present, rfl, complete⟩
      · refine ⟨group, ?_, rfl, isComplete_mono ?_ complete⟩
        · simpa [Entity.group?] using present
        · rw [events_add]
          exact List.subset_append_left _ _

end Receives

/-- What events that are delivered one after the other do to a store, and the groups that the
answers name as complete. -/
structure Delivered (store : MemoryStore) (news : List NewEvent) (completed : List GroupId)
    (after : MemoryStore) : Prop where
  groups : after.groups = store.groups
  success : ∀ id, store.knows id = true → (after.hasSuccess id = true ↔
    store.hasSuccess id = true ∨ ∃ new ∈ news, new.success = true ∧ new.receiverId = id)
  completed : ∀ id, id ∈ after.completeIds ↔ id ∈ completed ∨ id ∈ store.completeIds

theorem Delivered.nil (store : MemoryStore) : store.Delivered [] [] store :=
  ⟨rfl, by simp, by simp⟩

theorem Delivered.cons {middle after : MemoryStore} {new : NewEvent} {news : List NewEvent}
    {first later : List GroupId} (grouped : store.WellGrouped)
    (receives : store.Receives new first middle) (delivered : middle.Delivered news later after) :
    store.Delivered (new :: news) (first ++ later) after where
  groups := delivered.groups.trans receives.groups_eq
  success := by
    intro id known
    have knownStill : middle.knows id = true := by rw [receives.knows_eq, known]
    rw [delivered.success id knownStill, receives.hasSuccess_iff known, or_assoc]
    simp
  completed := by
    intro id
    rw [delivered.completed id, receives.mem_completeIds_iff grouped, List.mem_append, ← or_assoc,
      or_comm (a := id ∈ later)]

end MemoryStore

namespace EventService

variable {τ : Type} (topic : String) (supply : Supply)

end EventService

end EventCorrelation
