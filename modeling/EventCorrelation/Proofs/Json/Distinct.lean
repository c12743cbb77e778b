import EventCorrelation.Proofs.Json.Layouts
import EventCorrelation.Proofs.Json.Meaning

/-!
# Distinct values have distinct texts

A text spells one value only, however deep the value nests, since the tree of the text is the tree
of the value. So the compact text tells values without floating point numbers apart. What can be
spelled is free of them, and its normal form stays so.
-/

namespace EventCorrelation.Json

variable {first second value : Json} {text : List UInt8}

mutual

/-- The tree of a value shows all of it. -/
theorem ofJson_inj : (first second : Json) → Tree.ofJson first = Tree.ofJson second →
    first = second
  | .null, second, same | .bool _, second, same | .number _, second, same
  | .string _, second, same => by
    cases second <;> simp_all [Tree.ofJson]
  | .array items, second, same => by
    cases second <;> simp only [Tree.ofJson, reduceCtorEq] at same
    next others =>
      rw [ofItems_inj items others (Tree.array.inj same).1]
  | .object members, second, same => by
    cases second <;> simp only [Tree.ofJson, reduceCtorEq] at same
    next others =>
      rw [ofMembers_inj members others (Tree.object.inj same).1]
termination_by structural first => first

theorem ofItems_inj : (first second : List Json) → Tree.ofItems first = Tree.ofItems second →
    first = second
  | [], [], _ => rfl
  | [], _ :: _, same | _ :: _, [], same => nomatch same
  | item :: items, other :: others, same => by
    obtain ⟨sameItem, sameItems⟩ := List.cons.inj same
    rw [ofJson_inj item other sameItem, ofItems_inj items others sameItems]
termination_by structural first => first

theorem ofMembers_inj : (first second : List (String × Json)) →
    Tree.ofMembers first = Tree.ofMembers second → first = second
  | [], [], _ => rfl
  | [], _ :: _, same | _ :: _, [], same => nomatch same
  | (name, value) :: members, (otherName, other) :: others, same => by
    obtain ⟨sameMember, sameMembers⟩ := List.cons.inj same
    obtain ⟨sameName, sameValue⟩ := Prod.mk.inj sameMember
    rw [Except.ok.inj sameName, ofJson_inj value other sameValue,
      ofMembers_inj members others sameMembers]
termination_by structural first => first

end

theorem Spells.unique (spellsFirst : Spells first text) (spellsSecond : Spells second text) :
    first = second := by
  have scannedFirst := spellsFirst.scansTo _ [] (Nat.le_refl _) endsNumber_nil
  have scannedSecond := spellsSecond.scansTo _ [] (Nat.le_refl _) endsNumber_nil
  rw [scannedFirst] at scannedSecond
  exact ofJson_inj first second (Prod.mk.inj scannedSecond).1

theorem compact_inj (floatFreeFirst : first.FloatFree) (floatFreeSecond : second.FloatFree) :
    first.compact = second.compact ↔ first = second := by
  refine ⟨fun same => ?_, congrArg compact⟩
  have spelled := spells_compact floatFreeFirst
  rw [same] at spelled
  exact spelled.unique (spells_compact floatFreeSecond)

mutual

theorem Spells.floatFree : {value : Json} → {text : List UInt8} → Spells value text →
    value.FloatFree
  | _, _, .null | _, _, .true | _, _, .false | _, _, .string _ => trivial
  | _, _, .integer least greatest => ⟨least, greatest⟩
  | _, _, .array spelled => spelled.floatFree
  | _, _, .object spelled => spelled.floatFree

theorem SpellsItems.floatFree : {place : Place} → {items : List Json} → {text : List UInt8} →
    SpellsItems place items text → FloatFreeItems items
  | _, _, _, .nil _ => trivial
  | _, _, _, .cons _ head tail => ⟨head.floatFree, tail.floatFree⟩

theorem SpellsMembers.floatFree : {place : Place} → {members : List (String × Json)} →
    {text : List UInt8} → SpellsMembers place members text → FloatFreeMembers members
  | _, _, _, .nil _ => trivial
  | _, _, _, .cons _ _ _ _ head tail => ⟨head.floatFree, tail.floatFree⟩

end

theorem FloatFreeMembers.of_mem {members : List (String × Json)} (floatFree : FloatFreeMembers members)
    {member : String × Json} (isMember : member ∈ members) : member.2.FloatFree := by
  induction members with
  | nil => cases isMember
  | cons head rest ih =>
    rcases List.mem_cons.mp isMember with rfl | isLater
    · exact floatFree.1
    · exact ih floatFree.2 isLater

theorem floatFreeMembers_insertMember {name : String} {members : List (String × Json)}
    (floatFree : value.FloatFree) (others : FloatFreeMembers members) :
    FloatFreeMembers (insertMember name value members) := by
  induction members with
  | nil => exact ⟨floatFree, trivial⟩
  | cons head rest ih =>
    obtain ⟨headName, headValue⟩ := head
    unfold insertMember
    split
    · exact ⟨floatFree, others⟩
    · split
      · exact ⟨floatFree, others.2⟩
      · exact ⟨others.1, ih others.2⟩

theorem floatFreeMembers_setAll {start members : List (String × Json)}
    (floatFreeStart : FloatFreeMembers start) (floatFree : FloatFreeMembers members) :
    FloatFreeMembers (setAll start members) := by
  induction members generalizing start with
  | nil => exact floatFreeStart
  | cons head rest ih => exact ih (floatFreeMembers_insertMember floatFree.1 floatFreeStart) floatFree.2

mutual

theorem FloatFree.normal : {value : Json} → value.FloatFree → value.normal.FloatFree
  | .null, _ | .bool _, _ | .string _, _ => trivial
  | .number _, floatFree => floatFree
  | .array _, floatFree => floatFree_normalItems floatFree
  | .object _, floatFree => floatFreeMembers_setAll trivial (floatFree_normalMembers floatFree)
termination_by structural value => value

theorem floatFree_normalItems : {items : List Json} → FloatFreeItems items →
    FloatFreeItems (normalItems items)
  | [], _ => trivial
  | _ :: _, ⟨floatFree, others⟩ => ⟨floatFree.normal, floatFree_normalItems others⟩
termination_by structural items => items

theorem floatFree_normalMembers : {members : List (String × Json)} → FloatFreeMembers members →
    FloatFreeMembers (normalMembers members)
  | [], _ => trivial
  | _ :: _, ⟨floatFree, others⟩ => ⟨floatFree.normal, floatFree_normalMembers others⟩
termination_by structural members => members

end

end EventCorrelation.Json
