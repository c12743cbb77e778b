import EventCorrelation.Proofs.Group.Members
import EventCorrelation.Store.Memory

/-!
# Repeated members

Members that are given again change nothing. The members of a group are the first occurrences of the
given receivers, and groups that differ only in later occurrences have the same members, so they have
the same seed and are stored as the same group.
-/

namespace EventCorrelation

/-- The lists differ only in items that occur again. -/
inductive SameButRepeats {α : Type} : List α → List α → Prop
  | refl (items : List α) : SameButRepeats items items
  | symm {first second : List α} (same : SameButRepeats first second) : SameButRepeats second first
  | trans {first second third : List α} (front : SameButRepeats first second)
      (back : SameButRepeats second third) : SameButRepeats first third
  | again (front : List α) {item : α} (back : List α) (earlier : item ∈ front) :
      SameButRepeats (front ++ item :: back) (front ++ back)

namespace SameButRepeats

variable {α : Type} {first second : List α}

theorem concat (same : SameButRepeats first second) (last : α) :
    SameButRepeats (first ++ [last]) (second ++ [last]) := by
  induction same with
  | refl items => exact .refl _
  | symm _ ih => exact ih.symm
  | trans _ _ front back => exact front.trans back
  | again front back earlier =>
    rw [List.append_assoc, List.append_assoc]
    exact .again front (back ++ [last]) earlier

variable [DecidableEq α]

theorem eraseDups_eq (same : SameButRepeats first second) :
    first.eraseDups = second.eraseDups := by
  induction same with
  | refl items => rfl
  | symm _ ih => exact ih.symm
  | trans _ _ front back => exact front.trans back
  | again front back earlier =>
    rw [List.eraseDups_append, List.eraseDups_append]
    simp [List.removeAll, earlier]

theorem of_eraseDups (items : List α) : SameButRepeats items items.eraseDups := by
  induction items using List.reverseRecOn with
  | nil => exact .refl []
  | append_singleton items last ih =>
    rw [eraseDups_concat]
    split
    · next old =>
      have dropped := again items.eraseDups [] (List.mem_eraseDups.mpr old)
      rw [List.append_nil] at dropped
      exact (ih.concat last).trans dropped
    · exact ih.concat last

/-- Lists differ only in repetitions just if their first occurrences are the same. -/
theorem iff_eraseDups : SameButRepeats first second ↔ first.eraseDups = second.eraseDups := by
  constructor
  · exact eraseDups_eq
  · intro same
    have dropped := of_eraseDups first
    rw [same] at dropped
    exact dropped.trans (of_eraseDups second).symm

end SameButRepeats

namespace NewGroup

theorem members_eq_iff {first second : NewGroup} :
    first.members = second.members ↔ SameButRepeats first.memberIds second.memberIds := by
  rw [members_eq_eraseDups, members_eq_eraseDups, SameButRepeats.iff_eraseDups]

/-- The same new group, given with another list of receivers. -/
def withMembers (new : NewGroup) (memberIds : List ReceiverId) : NewGroup :=
  { new with memberIds }

theorem seed_eq_of_members {new : NewGroup} {ids : List ReceiverId}
    (same : (new.withMembers ids).members = new.members) :
    (new.withMembers ids).seed = new.seed := by
  rw [seed, same]
  rfl

theorem toGroup_eq_of_members {new : NewGroup} {ids : List ReceiverId}
    (same : (new.withMembers ids).members = new.members) :
    (new.withMembers ids).toGroup = new.toGroup := by
  funext id now
  rw [toGroup, same]
  rfl

theorem createGroup_eq_of_members {new : NewGroup} {ids : List ReceiverId}
    (same : (new.withMembers ids).members = new.members) (id : GroupId) (now : Timestamp)
    (store : MemoryStore) :
    store.createGroup id now (new.withMembers ids) = store.createGroup id now new := by
  rw [MemoryStore.createGroup, same, toGroup_eq_of_members same]
  rfl

/-- The members of a group are the first occurrences of the given receivers: each of them once and no
others, in the order in which they first occur. Taking them again changes nothing. Two lists have the
same members just if they differ only in repetitions, and then the seed is the same, and any store
makes the same of the two. A stored group contains just the receivers that were given. -/
theorem members_are_first_occurrences (new : NewGroup) :
    (new.members.Nodup ∧ (∀ id, id ∈ new.members ↔ id ∈ new.memberIds) ∧
      new.members.Pairwise fun first later =>
        new.memberIds.idxOf first < new.memberIds.idxOf later) ∧
    (new.withMembers new.members).members = new.members ∧
    (∀ ids, (new.withMembers ids).members = new.members ↔ SameButRepeats ids new.memberIds) ∧
    (∀ ids, SameButRepeats ids new.memberIds →
      (new.withMembers ids).seed = new.seed ∧ (new.withMembers ids).toGroup = new.toGroup ∧
        ∀ id now (store : MemoryStore),
          store.createGroup id now (new.withMembers ids) = store.createGroup id now new) ∧
    ∀ id now (store later : MemoryStore) group,
      store.createGroup id now new = (.ok group, later) →
        group ∈ later.groups ∧
          ∀ receiver, group.contains receiver = true ↔ receiver ∈ new.memberIds := by
  have sameMembers : ∀ ids,
      (new.withMembers ids).members = new.members ↔ SameButRepeats ids new.memberIds :=
    fun ids => members_eq_iff
  refine ⟨⟨new.nodup_members, fun id => mem_members, ?_⟩, ?_, sameMembers, ?_, ?_⟩
  · rw [members_eq_eraseDups]
    exact pairwise_idxOf_eraseDups new.memberIds
  · rw [members_eq_eraseDups]
    exact eraseDups_of_nodup new.nodup_members
  · intro ids same
    have members := (sameMembers ids).mpr same
    exact ⟨seed_eq_of_members members, toGroup_eq_of_members members,
      createGroup_eq_of_members members⟩
  · intro id now store later group created
    unfold MemoryStore.createGroup at created
    split at created
    · cases created
    · split at created
      · cases created
      · cases created
        refine ⟨by simp, fun receiver => ?_⟩
        rw [ReceiverGroup.contains, List.contains_iff_mem]
        exact mem_members

/-- A gate of two receivers, the first of which is given again. -/
def gateOfTwo : NewGroup := ⟨"release", "gate", "1", "", [⟨1⟩, ⟨2⟩, ⟨1⟩]⟩

/-- A store that holds the two. -/
def storeOfTwo : MemoryStore :=
  let unit : NewReceiver := ⟨"unit", "test", "1", "", .null⟩
  let lint : NewReceiver := ⟨"lint", "test", "1", "", .null⟩
  ⟨[], [unit.toReceiver ⟨1⟩ ⟨0, 0⟩, lint.toReceiver ⟨2⟩ ⟨0, 0⟩], []⟩

/-- The gate is stored with both, and is the same if nothing is given again. -/
theorem gateOfTwo_stored :
    (gateOfTwo.withMembers [⟨1⟩, ⟨2⟩]).seed = gateOfTwo.seed ∧
      gateOfTwo.toGroup ⟨3⟩ ⟨0, 0⟩ ∈ (storeOfTwo.createGroup ⟨3⟩ ⟨0, 0⟩ gateOfTwo).2.groups ∧
      (gateOfTwo.toGroup ⟨3⟩ ⟨0, 0⟩).contains ⟨2⟩ = true := by
  obtain ⟨-, -, -, alike, stored⟩ := members_are_first_occurrences gateOfTwo
  have again : SameButRepeats gateOfTwo.memberIds [⟨1⟩, ⟨2⟩] :=
    @SameButRepeats.again ReceiverId [⟨1⟩, ⟨2⟩] ⟨1⟩ [] (by decide)
  obtain ⟨isStored, contains⟩ :=
    stored ⟨3⟩ ⟨0, 0⟩ storeOfTwo _ (gateOfTwo.toGroup ⟨3⟩ ⟨0, 0⟩) rfl
  exact ⟨(alike _ again.symm).1, isStored, (contains ⟨2⟩).mpr (by decide)⟩

end NewGroup

end EventCorrelation
