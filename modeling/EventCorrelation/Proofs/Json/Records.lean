import EventCorrelation.Proofs.Json.Decoding
import Mathlib.Data.List.Forall2

/-!
# Reading records back

A record is read back from an object with one member for each of its fields in declaration order,
if each field is read back from its member. What the shape of the record is put together from, the
statement about it is put together from as well.
-/

namespace EventCorrelation.Json

variable {α β : Type} {reading : Reading} {json : Json} {members : List (String × Json)} {value : α}

/-- A field that finds its member sound. -/
def FieldCheck.Accepts (reading : Reading) (field : FieldCheck) (member : String × Json) : Prop :=
  field.name = member.1 ∧ field.check reading (.ofJson member.2) = .ok ()

/-- The shape finds the value in the members. -/
structure Shape.Describes (shape : Shape α) (members : List (String × Json)) (value : α) : Prop where
  checks : ∀ reading : Reading, reading.Admits (depthMembers members) →
    List.Forall₂ (FieldCheck.Accepts reading) shape.fields members
  build : ∀ (reading : Reading) (brought : Brought), reading.Admits (depthMembers members) →
    (∀ member ∈ members, brought.lookup member.1 = some (.ofJson member.2)) →
      shape.build reading brought = .ok value

theorem depthMembers_append (front back : List (String × Json)) :
    depthMembers (front ++ back) = max (depthMembers front) (depthMembers back) := by
  induction front with
  | nil => exact (Nat.zero_max _).symm
  | cons member front ih =>
    obtain ⟨name, json⟩ := member
    rw [List.cons_append, depthMembers, depthMembers, ih, Nat.max_assoc]

theorem describes_pure (value : α) : (pure value : Shape α).Describes [] value :=
  ⟨fun _ _ => .nil, fun _ _ _ _ => rfl⟩

theorem Shape.Describes.seq {function : Shape (α → β)} {argument : Shape α} {apply : α → β}
    {front back : List (String × Json)} (describesFunction : function.Describes front apply)
    (describesArgument : argument.Describes back value) :
    (function <*> argument).Describes (front ++ back) (apply value) where
  checks := by
    intro reading admits
    rw [depthMembers_append] at admits
    exact List.rel_append (describesFunction.checks reading (admits.mono (Nat.le_max_left ..)))
      (describesArgument.checks reading (admits.mono (Nat.le_max_right ..)))
  build := by
    intro reading brought admits found
    rw [depthMembers_append] at admits
    have first := describesFunction.build reading brought (admits.mono (Nat.le_max_left ..))
      fun member isMember => found member (List.mem_append_left _ isMember)
    have second := describesArgument.build reading brought (admits.mono (Nat.le_max_right ..))
      fun member isMember => found member (List.mem_append_right _ isMember)
    change (do
      let apply ← function.build reading brought
      let value ← argument.build reading brought
      return apply value) = _
    rw [first, second]
    rfl

theorem Shape.Describes.map {argument : Shape α} (apply : α → β)
    (describes : argument.Describes members value) :
    (apply <$> argument).Describes members (apply value) :=
  (describes_pure apply).seq describes

/-- A field describes the member with its name. -/
theorem describes_field (field : Field α) (reads : Reads field.decoder json value) :
    field.toShape.Describes [(field.name, json)] value where
  checks := by
    intro reading admits
    have decoded := reads reading (admits.mono (Nat.le_max_left ..))
    refine .cons ⟨rfl, ?_⟩ .nil
    change (field.decoder reading (.ofJson json)).map (fun _ => ()) = _
    rw [decoded]
    rfl
  build := by
    intro reading brought admits found
    have decoded := reads reading (admits.mono (Nat.le_max_left ..))
    have lookup := found (field.name, json) (List.mem_singleton_self _)
    change field.get reading brought = _
    rw [Field.get, lookup]
    exact decoded

theorem describes_required {decoder : Decoder α} (name : String)
    (reads : Reads decoder json value) :
    (required name decoder).Describes [(name, json)] value :=
  describes_field ⟨name, decoder, none⟩ reads

theorem describes_optional {decoder : Decoder α} (name : String) (absent : α)
    (reads : Reads decoder json value) :
    (optional name decoder absent).Describes [(name, json)] value :=
  describes_field ⟨name, decoder, some absent⟩ reads

/-- Among fields of different names, each member finds the one that accepts it. -/
theorem find?_of_accepts {fields : List FieldCheck}
    (accepts : List.Forall₂ (FieldCheck.Accepts reading) fields members)
    (distinct : (members.map (·.1)).Nodup) {member : String × Json} (isMember : member ∈ members) :
    ∃ field, fields.find? (·.name == member.1) = some field ∧ field.Accepts reading member := by
  induction accepts with
  | nil => cases isMember
  | @cons field first fields rest head tail ih =>
    rw [List.map_cons, List.nodup_cons] at distinct
    rcases List.mem_cons.mp isMember with rfl | later
    · refine ⟨field, List.find?_cons_of_pos ?_, head⟩
      exact beq_iff_eq.mpr head.1
    · obtain ⟨other, found, accepted⟩ := ih distinct.2 later
      refine ⟨other, ?_, accepted⟩
      rw [List.find?_cons_of_neg]
      · exact found
      · intro same
        have nameEq : first.1 = member.1 := head.1.symm.trans (beq_iff_eq.mp same)
        exact distinct.1 (nameEq ▸ List.mem_map_of_mem later)

theorem lookup_cons_of_ne {γ : Type} {name other : String} (differ : name ≠ other) (entry : γ)
    (entries : List (String × γ)) : ((other, entry) :: entries).lookup name = entries.lookup name := by
  rw [List.lookup_cons, beq_eq_false_iff_ne.mpr differ]

/-- A member of a field is brought if it is sound and the first of its name. -/
theorem bringMembers_known {fields : List FieldCheck} {brought : Brought} {name : String}
    {owner : FieldCheck} (known : fields.find? (·.name == name) = some owner)
    (new : brought.lookup name = none) (sound : owner.check reading (.ofJson json) = .ok ())
    (rest : List (String × Json)) :
    bringMembers fields reading brought (Tree.ofMembers ((name, json) :: rest)) =
      bringMembers fields reading ((name, Tree.ofJson json) :: brought) (Tree.ofMembers rest) := by
  rw [Tree.ofMembers, bringMembers]
  simp only [bind, Except.bind, mapError_ok, known, new, sound]
  rfl

/-- All members are brought, and what was brought before stays. -/
theorem bringMembers_ofMembers (fields : List FieldCheck) (brought : Brought)
    (accepted : ∀ member ∈ members,
      ∃ field, fields.find? (·.name == member.1) = some field ∧ field.Accepts reading member)
    (distinct : (members.map (·.1)).Nodup)
    (fresh : ∀ member ∈ members, brought.lookup member.1 = none) :
    ∃ all, bringMembers fields reading brought (Tree.ofMembers members) = .ok all ∧
      (∀ member ∈ members, all.lookup member.1 = some (.ofJson member.2)) ∧
      ∀ name tree, brought.lookup name = some tree → all.lookup name = some tree := by
  induction members generalizing brought with
  | nil => exact ⟨brought, rfl, fun member isMember => (List.not_mem_nil isMember).elim,
    fun _ _ found => found⟩
  | cons member rest ih =>
    obtain ⟨name, json⟩ := member
    obtain ⟨field, found, -, checked⟩ := accepted (name, json) (List.mem_cons_self ..)
    have absent : brought.lookup name = none := fresh (name, json) (List.mem_cons_self ..)
    rw [List.map_cons, List.nodup_cons] at distinct
    have freshRest : ∀ other ∈ rest,
        List.lookup other.1 ((name, Tree.ofJson json) :: brought) = none := by
      intro other isOther
      have differs : other.1 ≠ name := by
        intro same
        have listed : other.1 ∈ rest.map (·.1) := List.mem_map_of_mem isOther
        rw [same] at listed
        exact distinct.1 listed
      rw [lookup_cons_of_ne differs]
      exact fresh other (List.mem_cons_of_mem _ isOther)
    obtain ⟨all, broughtAll, lookups, kept⟩ := ih ((name, Tree.ofJson json) :: brought)
      (fun other isOther => accepted other (List.mem_cons_of_mem _ isOther)) distinct.2 freshRest
    refine ⟨all, (bringMembers_known found absent checked rest).trans broughtAll, ?_, ?_⟩
    · intro other isOther
      rcases List.mem_cons.mp isOther with rfl | later
      · exact kept name _ (List.lookup_cons_self ..)
      · exact lookups other later
    · intro other tree lookup
      refine kept other tree ?_
      have differs : other ≠ name := by
        rintro rfl
        rw [absent] at lookup
        cases lookup
      rw [lookup_cons_of_ne differs]
      exact lookup

/-- A record is read back from the object that lists its fields. -/
theorem reads_record {reader : RecordReader α} (describes : reader.shape.Describes members value)
    (distinct : (members.map (·.1)).Nodup) : Reads reader.decode (.object members) value := by
  intro reading admits
  obtain ⟨inner, entered, innerAdmits⟩ := enter_of_admits admits
  have accepts := describes.checks inner innerAdmits
  obtain ⟨all, brought, lookups, -⟩ := bringMembers_ofMembers reader.shape.fields []
    (fun member isMember => find?_of_accepts accepts distinct isMember) distinct fun _ _ => rfl
  have built := describes.build inner all innerAdmits lookups
  rw [Tree.ofJson, RecordReader.decode, entered]
  simp only [bind, Except.bind, brought]
  exact built

end EventCorrelation.Json
