import EventCorrelation.ReceiverGroup
import Mathlib.Data.List.Induction

/-!
# Members of groups

The members of a group are the given receivers, each once and where it first occurs.
-/

namespace EventCorrelation

section Lists

variable {α : Type} [DecidableEq α]

theorem eraseDups_concat (items : List α) (last : α) :
    (items ++ [last]).eraseDups =
      if last ∈ items then items.eraseDups else items.eraseDups ++ [last] := by
  rw [List.eraseDups_append]
  by_cases old : last ∈ items
  · simp [List.removeAll, old]
  · simp [List.removeAll, old, List.eraseDups_cons]

/-- The first occurrences come in the order of the list. -/
theorem pairwise_idxOf_eraseDups (items : List α) :
    items.eraseDups.Pairwise fun first later => items.idxOf first < items.idxOf later := by
  induction items using List.reverseRecOn with
  | nil => exact .nil
  | append_singleton items last ih =>
    have ordered : items.eraseDups.Pairwise fun first later =>
        (items ++ [last]).idxOf first < (items ++ [last]).idxOf later := by
      refine ih.imp_of_mem ?_
      intro first later isItem isLater before
      rw [List.idxOf_append, if_pos (List.mem_eraseDups.mp isItem), List.idxOf_append,
        if_pos (List.mem_eraseDups.mp isLater)]
      exact before
    rw [eraseDups_concat]
    split
    · exact ordered
    · next isNew =>
      refine List.pairwise_append.mpr ⟨ordered, List.pairwise_singleton _ last, ?_⟩
      intro first isItem later isLast
      rw [List.mem_eraseDups] at isItem
      rw [List.mem_singleton.mp isLast, List.idxOf_append, if_pos isItem, List.idxOf_append,
        if_neg isNew]
      have inside := List.idxOf_lt_length_of_mem isItem
      omega

theorem nodup_eraseDups (items : List α) : items.eraseDups.Nodup := by
  refine (pairwise_idxOf_eraseDups items).imp fun before same => ?_
  rw [same] at before
  exact Nat.lt_irrefl _ before

theorem eraseDups_of_nodup {items : List α} (nodup : items.Nodup) : items.eraseDups = items := by
  induction items using List.reverseRecOn with
  | nil => rfl
  | append_singleton items last ih =>
    obtain ⟨nodupItems, -, isNew⟩ := List.nodup_append.mp nodup
    have notItem : last ∉ items := fun isItem => isNew last isItem last (by simp) rfl
    rw [eraseDups_concat, if_neg notItem, ih nodupItems]

/-- An item that occurs again is not the first one to pass a test. -/
theorem find?_eraseDups (test : α → Bool) (items : List α) :
    items.eraseDups.find? test = items.find? test := by
  induction items using List.reverseRecOn with
  | nil => rfl
  | append_singleton items last ih =>
    rw [eraseDups_concat, List.find?_append]
    split
    · next old =>
      cases found : items.find? test with
      | some item => rw [ih, found]; rfl
      | none =>
        have fails : test last = false := by simpa using List.find?_eq_none.mp found last old
        rw [ih, found]
        simp [fails]
    · rw [List.find?_append, ih]

end Lists

namespace NewGroup

theorem members_eq_eraseDups (new : NewGroup) : new.members = new.memberIds.eraseDups := by
  rw [members]
  induction new.memberIds using List.reverseRecOn with
  | nil => rfl
  | append_singleton ids last ih =>
    rw [List.foldl_append, ih, eraseDups_concat]
    simp [List.mem_eraseDups]

/-- Leaving out repetitions leaves out no member. -/
theorem mem_members {new : NewGroup} {id : ReceiverId} :
    id ∈ new.members ↔ id ∈ new.memberIds := by
  rw [members_eq_eraseDups, List.mem_eraseDups]

theorem isEmpty_members {new : NewGroup} : new.members.isEmpty = true ↔ new.memberIds = [] := by
  rw [List.isEmpty_iff, List.eq_nil_iff_forall_not_mem, List.eq_nil_iff_forall_not_mem]
  exact forall_congr' fun id => not_congr mem_members

theorem nodup_members (new : NewGroup) : new.members.Nodup := by
  rw [members_eq_eraseDups]
  exact nodup_eraseDups new.memberIds

end NewGroup

end EventCorrelation
