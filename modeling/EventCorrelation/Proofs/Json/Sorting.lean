import EventCorrelation.Json.Basic

/-!
# Sorted members

Objects that a text brings are sorted by name on the way in. A value all of whose objects are sorted
already comes out as it went in.
-/

namespace EventCorrelation.Json

theorem insertMember_subset (name : String) (value : Json) (members : List (String × Json)) :
    insertMember name value members ⊆ (name, value) :: members := by
  induction members with
  | nil => exact List.Subset.refl _
  | cons head rest ih =>
    obtain ⟨headName, headValue⟩ := head
    unfold insertMember
    split
    · exact List.Subset.refl _
    · split
      · exact List.cons_subset_cons _ (List.subset_cons_self ..)
      · intro member isMember
        rcases List.mem_cons.mp isMember with rfl | isLater
        · simp
        · rcases List.mem_cons.mp (ih isLater) with rfl | isRest
          · simp
          · simp [isRest]

/-- Sorting brings in no members. -/
theorem sortMembers_subset (members : List (String × Json)) : sortMembers members ⊆ members := by
  have inserted : ∀ front : List (String × Json),
      members.foldl (fun sorted member => insertMember member.1 member.2 sorted) front ⊆
        front ++ members := by
    induction members with
    | nil => simp
    | cons head rest ih =>
      intro front member isMember
      rcases List.mem_append.mp (ih _ isMember) with isInserted | isRest
      · rcases List.mem_cons.mp (insertMember_subset _ _ _ isInserted) with rfl | isFront
        · simp
        · simp [isFront]
      · simp [isRest]
  exact inserted []

theorem member?_cons (name : String) (head : String × Json) (rest : List (String × Json)) :
    (object (head :: rest)).member? name =
      if head.1 = name then some head.2 else (object rest).member? name := by
  by_cases same : head.1 = name <;> simp [member?, same]

/-- A member that was set is found, and all others stay. -/
theorem member?_insertMember (name other : String) (value : Json) (members : List (String × Json)) :
    (object (insertMember other value members)).member? name =
      if other = name then some value else (object members).member? name := by
  induction members with
  | nil => rw [insertMember, member?_cons]
  | cons head rest ih =>
    obtain ⟨headName, headValue⟩ := head
    unfold insertMember
    split
    · rw [member?_cons]
    · split
      next same =>
        subst same
        simp only [member?_cons]
        split <;> rfl
      next differ =>
        rw [member?_cons, member?_cons, ih]
        by_cases isHead : headName = name
        · have notOther : other ≠ name := fun same => differ (same.trans isHead.symm)
          rw [if_pos isHead, if_neg notOther, if_pos isHead]
        · rw [if_neg isHead, if_neg isHead]

/-- Sorting keeps the last member of each name. -/
theorem member?_sortMembers {name : String} {value : Json} {back : List (String × Json)}
    (last : name ∉ back.map (·.1)) (front : List (String × Json)) :
    (object (sortMembers (front ++ (name, value) :: back))).member? name = some value := by
  rw [sortMembers, List.foldl_append, List.foldl_cons]
  have kept : ∀ sorted : List (String × Json), (object sorted).member? name = some value →
      (object (back.foldl (fun sorted member => insertMember member.1 member.2 sorted) sorted)).member?
        name = some value := by
    induction back with
    | nil => exact fun _ found => found
    | cons member back ih =>
      obtain ⟨differs, lastOfRest⟩ := not_or.mp (mt List.mem_cons.mpr last)
      intro sorted found
      refine ih lastOfRest _ ?_
      rw [member?_insertMember, if_neg (Ne.symm differs), found]
  refine kept _ ?_
  rw [member?_insertMember, if_pos rfl]

/-- A member behind all others is set at the end. -/
theorem insertMember_of_lt {members : List (String × Json)} {name : String} (value : Json)
    (last : ∀ member ∈ members, member.1 < name) :
    insertMember name value members = members ++ [(name, value)] := by
  induction members with
  | nil => rfl
  | cons head rest ih =>
    obtain ⟨headName, headValue⟩ := head
    have less : headName < name := last (headName, headValue) (List.mem_cons_self ..)
    have notBefore : ¬ name < headName := String.lt_asymm less
    have notSame : name ≠ headName := by
      rintro rfl
      exact String.lt_irrefl name less
    rw [insertMember, if_neg notBefore, if_neg notSame,
      ih fun member isMember => last member (List.mem_cons_of_mem _ isMember)]
    rfl

theorem foldl_insertMember (front back : List (String × Json))
    (sorted : ((front ++ back).map (·.1)).Pairwise (· < ·)) :
    back.foldl (fun sorted member => insertMember member.1 member.2 sorted) front = front ++ back := by
  induction back generalizing front with
  | nil => exact (List.append_nil front).symm
  | cons member back ih =>
    have last : ∀ other ∈ front, other.1 < member.1 := by
      intro other isOther
      rw [List.map_append, List.pairwise_append] at sorted
      exact sorted.2.2 other.1 (List.mem_map_of_mem isOther) member.1 (List.mem_cons_self ..)
    have splits : front ++ member :: back = (front ++ [(member.1, member.2)]) ++ back := by simp
    rw [List.foldl_cons, insertMember_of_lt member.2 last, splits]
    exact ih (front ++ [(member.1, member.2)]) (by rwa [← splits])

/-- Sorting leaves sorted members as they are. -/
theorem sortMembers_of_sorted {members : List (String × Json)}
    (sorted : (members.map (·.1)).Pairwise (· < ·)) : sortMembers members = members :=
  foldl_insertMember [] members sorted

mutual

/-- The value with the members of every object in it sorted by name, the last of each name. -/
def normal : Json → Json
  | .array items => .array (normalItems items)
  | .object members => .object (sortMembers (normalMembers members))
  | value => value
termination_by structural value => value

def normalItems : List Json → List Json
  | [] => []
  | item :: rest => item.normal :: normalItems rest
termination_by structural items => items

def normalMembers : List (String × Json) → List (String × Json)
  | [] => []
  | (name, value) :: rest => (name, value.normal) :: normalMembers rest
termination_by structural members => members

end

theorem names_normalMembers (members : List (String × Json)) :
    (normalMembers members).map (·.1) = members.map (·.1) := by
  induction members with
  | nil => rfl
  | cons member rest ih => simp [normalMembers, ih]

mutual

/-- A value whose objects are sorted is its own normal form. -/
theorem normal_of_sorted : (value : Json) → value.Sorted → value.normal = value
  | .null, _ | .bool _, _ | .number _, _ | .string _, _ => rfl
  | .array items, sorted => by rw [normal, normalItems_of_sorted items sorted]
  | .object members, sorted => by
    rw [normal, normalMembers_of_sorted members sorted.2, sortMembers_of_sorted sorted.1]
termination_by structural value => value

theorem normalItems_of_sorted : (items : List Json) → SortedItems items → normalItems items = items
  | [], _ => rfl
  | item :: rest, sorted => by
    rw [normalItems, normal_of_sorted item sorted.1, normalItems_of_sorted rest sorted.2]
termination_by structural items => items

theorem normalMembers_of_sorted : (members : List (String × Json)) → SortedMembers members →
    normalMembers members = members
  | [], _ => rfl
  | (name, value) :: rest, sorted => by
    rw [normalMembers, normal_of_sorted value sorted.1, normalMembers_of_sorted rest sorted.2]
termination_by structural members => members

end

end EventCorrelation.Json
