import EventCorrelation.Json.Meaning
import EventCorrelation.Proofs.Json.Nesting

/-!
# Meanings and normal forms

Two values have the same meaning exactly if they have the same normal form. In one direction it is
enough that setting members of different names commutes and that setting a member twice is setting
it once; in the other, sorting is done by swapping neighbours and dropping overwritten members.
-/

namespace EventCorrelation.Json

variable {name other : String} {value otherValue : Json} {members : List (String × Json)}

section Setting

private theorem insertMember_comm_of_lt (less : name < other) (members : List (String × Json)) :
    insertMember name value (insertMember other otherValue members) =
      insertMember other otherValue (insertMember name value members) := by
  have notLess : ¬ other < name := String.lt_asymm less
  have differ : other ≠ name := by
    rintro rfl
    exact String.lt_irrefl other less
  induction members with
  | nil => simp [insertMember, less, notLess, differ]
  | cons head rest ih =>
    obtain ⟨headName, headValue⟩ := head
    by_cases otherFirst : other < headName
    · have first : name < headName := String.lt_trans less otherFirst
      simp [insertMember, less, notLess, differ, otherFirst, first]
    by_cases otherHead : other = headName
    · subst otherHead
      simp [insertMember, less, notLess, differ]
    by_cases first : name < headName
    · simp [insertMember, notLess, differ, otherFirst, otherHead, first]
    by_cases isHead : name = headName
    · subst isHead
      simp [insertMember, notLess, differ]
    · simp [insertMember, otherFirst, otherHead, first, isHead, ih]

theorem insertMember_comm (differ : name ≠ other) (members : List (String × Json)) :
    insertMember name value (insertMember other otherValue members) =
      insertMember other otherValue (insertMember name value members) := by
  rcases Std.lt_trichotomy name other with less | same | greater
  · exact insertMember_comm_of_lt less members
  · exact absurd same differ
  · exact (insertMember_comm_of_lt greater members).symm

theorem insertMember_again (members : List (String × Json)) :
    insertMember name value (insertMember name otherValue members) =
      insertMember name value members := by
  induction members with
  | nil => simp [insertMember]
  | cons head rest ih =>
    obtain ⟨headName, headValue⟩ := head
    by_cases less : name < headName
    · simp [insertMember, less]
    · by_cases same : name = headName
      · simp [insertMember, same]
      · simp [insertMember, less, same, ih]

/-- Sets members one after the other. -/
def setAll (start members : List (String × Json)) : List (String × Json) :=
  members.foldl (fun sorted member => insertMember member.1 member.2 sorted) start

theorem setAll_cons (start : List (String × Json)) (member : String × Json)
    (rest : List (String × Json)) :
    setAll start (member :: rest) = setAll (insertMember member.1 member.2 start) rest :=
  rfl

theorem setAll_append (start front back : List (String × Json)) :
    setAll start (front ++ back) = setAll (setAll start front) back :=
  List.foldl_append

/-- A member that is set again later need not be set before. -/
theorem setAll_insertMember {back : List (String × Json)} (again : name ∈ back.map (·.1))
    (start : List (String × Json)) : setAll (insertMember name value start) back = setAll start back := by
  induction back generalizing start with
  | nil => cases again
  | cons head rest ih =>
    obtain ⟨headName, headValue⟩ := head
    rw [setAll_cons, setAll_cons]
    by_cases same : name = headName
    · subst same
      rw [insertMember_again]
    · have later : name ∈ rest.map (·.1) := (List.mem_cons.mp again).resolve_left same
      rw [insertMember_comm (Ne.symm same), ih later]

end Setting

section Soundness

theorem normalItems_append (front back : List Json) :
    normalItems (front ++ back) = normalItems front ++ normalItems back := by
  induction front with
  | nil => rfl
  | cons item front ih => simp [normalItems, ih]

theorem normalMembers_append (front back : List (String × Json)) :
    normalMembers (front ++ back) = normalMembers front ++ normalMembers back := by
  induction front with
  | nil => rfl
  | cons member front ih => simp [normalMembers, ih]

theorem normal_object_append (front back : List (String × Json)) :
    (Json.object (front ++ back)).normal =
      .object (setAll (setAll [] (normalMembers front)) (normalMembers back)) := by
  rw [normal, normalMembers_append, ← setAll_append]
  rfl

theorem SameMeaning.normal_eq {first second : Json} (same : SameMeaning first second) :
    first.normal = second.normal := by
  induction same with
  | refl => rfl
  | symm _ ih => exact ih.symm
  | trans _ _ ihFront ihBack => exact ihFront.trans ihBack
  | item front back _ ih => simp [normal, normalItems_append, normalItems, ih]
  | member front name back _ ih => simp [normal, normalMembers_append, normalMembers, ih]
  | swapped front back differ =>
    simp only [normal_object_append, normalMembers, setAll_cons, insertMember_comm differ]
  | @overwritten front name value back again =>
    rw [← names_normalMembers] at again
    simp only [normal_object_append, normalMembers, setAll_cons, setAll_insertMember again]

end Soundness

section Completeness

/-- A member may be moved in front of members of other names. -/
theorem sameMeaning_moved {middle : List (String × Json)} (differ : ∀ member ∈ middle, member.1 ≠ name)
    (front back : List (String × Json)) :
    SameMeaning (.object (front ++ (middle ++ (name, value) :: back)))
      (.object (front ++ (name, value) :: (middle ++ back))) := by
  induction middle generalizing front with
  | nil => exact .refl _
  | cons head middle ih =>
    have differHead : head.1 ≠ name := differ head (List.mem_cons_self ..)
    have moved := ih (fun member isMember => differ member (List.mem_cons_of_mem _ isMember))
      (front ++ [head])
    simp only [List.append_assoc, List.cons_append, List.nil_append] at moved ⊢
    exact moved.trans (.swapped front (middle ++ back) differHead)

/-- A member behind sorted members may be set among them. -/
theorem sameMeaning_insertMember {sorted : List (String × Json)}
    (increasing : (sorted.map (·.1)).Pairwise (· < ·)) (front back : List (String × Json)) :
    SameMeaning (.object (front ++ (sorted ++ (name, value) :: back)))
      (.object (front ++ (insertMember name value sorted ++ back))) := by
  induction sorted generalizing front with
  | nil => exact .refl _
  | cons head rest ih =>
    obtain ⟨headName, headValue⟩ := head
    obtain ⟨above, increasingRest⟩ := List.pairwise_cons.mp increasing
    have aboveRest : ∀ member ∈ rest, headName < member.1 :=
      fun member isMember => above member.1 (List.mem_map_of_mem isMember)
    unfold insertMember
    split
    · next less =>
      refine sameMeaning_moved (fun member isMember => ?_) front back
      rcases List.mem_cons.mp isMember with rfl | isLater
      · exact (String.ne_of_lt less).symm
      · exact (String.ne_of_lt (String.lt_trans less (aboveRest member isLater))).symm
    · split
      · next same =>
        subst same
        -- the value at the head is overwritten, then the new one takes its place
        have again : name ∈ (rest ++ (name, value) :: back).map (·.1) := by simp
        have differ : ∀ member ∈ rest, member.1 ≠ name :=
          fun member isMember => (String.ne_of_lt (aboveRest member isMember)).symm
        exact (SameMeaning.overwritten front headValue again).trans
          (sameMeaning_moved differ front back)
      · have inserted := ih increasingRest (front ++ [(headName, headValue)])
        simpa only [List.append_assoc, List.cons_append, List.nil_append] using inserted

theorem sameMeaning_setAll {sorted : List (String × Json)}
    (increasing : (sorted.map (·.1)).Pairwise (· < ·)) (members : List (String × Json)) :
    SameMeaning (.object (sorted ++ members)) (.object (setAll sorted members)) := by
  induction members generalizing sorted with
  | nil =>
    rw [List.append_nil]
    exact .refl _
  | cons member rest ih =>
    exact (sameMeaning_insertMember increasing [] rest).trans
      (ih (pairwise_insertMember increasing))

mutual

theorem sameMeaning_normal : (json : Json) → SameMeaning json json.normal
  | .null | .bool _ | .number _ | .string _ => .refl _
  | .array items => sameMeaning_normalItems items []
  | .object members =>
    (sameMeaning_normalMembers members []).trans (sameMeaning_setAll .nil (normalMembers members))
termination_by structural json => json

theorem sameMeaning_normalItems : (items front : List Json) →
    SameMeaning (.array (front ++ items)) (.array (front ++ normalItems items))
  | [], _ => .refl _
  | item :: rest, front => by
    have head := SameMeaning.item front rest (sameMeaning_normal item)
    have tail := sameMeaning_normalItems rest (front ++ [item.normal])
    simp only [List.append_assoc, List.cons_append, List.nil_append] at tail
    exact head.trans tail
termination_by structural items => items

theorem sameMeaning_normalMembers : (members front : List (String × Json)) →
    SameMeaning (.object (front ++ members)) (.object (front ++ normalMembers members))
  | [], _ => .refl _
  | (name, value) :: rest, front => by
    have head := SameMeaning.member front name rest (sameMeaning_normal value)
    have tail := sameMeaning_normalMembers rest (front ++ [(name, value.normal)])
    simp only [List.append_assoc, List.cons_append, List.nil_append] at tail
    exact head.trans tail
termination_by structural members => members

end

end Completeness

theorem sameMeaning_iff {first second : Json} :
    SameMeaning first second ↔ first.normal = second.normal := by
  refine ⟨SameMeaning.normal_eq, fun same => ?_⟩
  have back := (sameMeaning_normal second).symm
  rw [← same] at back
  exact (sameMeaning_normal first).trans back

end EventCorrelation.Json
