import EventCorrelation.Identifier.Supply

/-!
# Drawn identifiers

Identifiers that come from a supply one draw after the other. They differ as long as no number comes
up twice.
-/

namespace EventCorrelation.Supply

variable {supply : Supply} {kind : EntityKind} {bound : Nat} {ids : List (Identifier kind)}

/-- The identifiers come from some of the first draws, in the order of the draws. -/
def Drawn (supply : Supply) (bound : Nat) (ids : List (Identifier kind)) : Prop :=
  ∃ draws : List Nat, draws.Pairwise (· < ·) ∧ (∀ draw ∈ draws, draw < bound) ∧
    ids = draws.map (supply.id kind)

theorem DistinctBelow.mono {later : Nat} (distinct : supply.DistinctBelow later)
    (grows : bound ≤ later) : supply.DistinctBelow bound :=
  fun first firstBelow second secondBelow =>
    distinct first (Nat.lt_of_lt_of_le firstBelow grows) second
      (Nat.lt_of_lt_of_le secondBelow grows)

theorem drawn_nil : supply.Drawn bound ([] : List (Identifier kind)) :=
  ⟨[], .nil, by simp, rfl⟩

theorem Drawn.mono {later : Nat} (drawn : supply.Drawn bound ids) (grows : bound ≤ later) :
    supply.Drawn later ids := by
  obtain ⟨draws, increasing, below, idsEq⟩ := drawn
  exact ⟨draws, increasing, fun draw member => Nat.lt_of_lt_of_le (below draw member) grows, idsEq⟩

/-- The identifier of the next draw may follow. -/
theorem Drawn.concat (drawn : supply.Drawn bound ids) :
    supply.Drawn (bound + 1) (ids ++ [supply.id kind bound]) := by
  obtain ⟨draws, increasing, below, idsEq⟩ := drawn
  refine ⟨draws ++ [bound], ?_, ?_, by simp [idsEq]⟩
  · rw [List.pairwise_append]
    refine ⟨increasing, List.pairwise_singleton _ _, ?_⟩
    intro draw member last lastMember
    rw [List.mem_singleton.mp lastMember]
    exact below draw member
  · intro draw member
    rcases List.mem_append.mp member with old | last
    · exact Nat.lt_succ_of_lt (below draw old)
    · rw [List.mem_singleton.mp last]
      exact Nat.lt_succ_self bound

/-- Identifiers from different draws differ if their numbers do. -/
theorem Drawn.nodup (drawn : supply.Drawn bound ids) (distinct : supply.DistinctBelow bound) :
    ids.Nodup := by
  obtain ⟨draws, increasing, below, rfl⟩ := drawn
  rw [List.nodup_iff_pairwise_ne, List.pairwise_map]
  refine increasing.imp_of_mem ?_
  intro first second firstMember secondMember smaller same
  have sameDraw := distinct first (below first firstMember) second (below second secondMember)
    (congrArg Identifier.value same)
  omega

theorem Drawn.next_not_mem (drawn : supply.Drawn bound ids)
    (distinct : supply.DistinctBelow (bound + 1)) : supply.id kind bound ∉ ids := by
  intro isOld
  have apart := (List.nodup_append.mp (drawn.concat.nodup distinct)).2.2
  exact apart _ isOld _ (List.mem_singleton_self _) rfl

/-- Counts the draws, and always gives the start of the epoch as the time. -/
def counting : Supply :=
  ⟨fun draw => BitVec.ofNat 128 draw, fun _ => ⟨0, 0⟩⟩

end EventCorrelation.Supply
