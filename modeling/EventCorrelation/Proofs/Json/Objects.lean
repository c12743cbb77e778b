import EventCorrelation.Proofs.Json.Nesting

/-!
# Reading records from loose objects and from lists

An object may list the fields of a record in any order, leave out those that may be left out and
have members that no field asks for; an array has the fields in declaration order. Both are read as
the record, each field at most once.
-/

namespace EventCorrelation.Json

variable {α β : Type} {reading : Reading} {members : List (String × Json)} {value : α}

mutual

/-- A value that is no text has nothing wrong in it to be skipped. -/
theorem skip_ofJson : (json : Json) → (Tree.ofJson json).skip = .ok ()
  | .null | .bool _ | .number _ | .string _ => rfl
  | .array items => by
    rw [Tree.ofJson, Tree.skip, skipItems_ofItems items]
    rfl
  | .object members => by
    rw [Tree.ofJson, Tree.skip, skipMembers_ofMembers members]
    rfl
termination_by structural json => json

theorem skipItems_ofItems : (items : List Json) → Tree.skipItems (Tree.ofItems items) = .ok ()
  | [] => rfl
  | item :: rest => by
    rw [Tree.ofItems, Tree.skipItems, skip_ofJson item]
    exact skipItems_ofItems rest
termination_by structural items => items

theorem skipMembers_ofMembers : (members : List (String × Json)) →
    Tree.skipMembers (Tree.ofMembers members) = .ok ()
  | [] => rfl
  | (_, value) :: rest => by
    rw [Tree.ofMembers, Tree.skipMembers, skip_ofJson value]
    exact skipMembers_ofMembers rest
termination_by structural members => members

end

section Objects

/-- The name occurs at most once among the members. -/
def NamedOnce (name : String) (members : List (String × Json)) : Prop :=
  (members.map (·.1)).count name ≤ 1

instance (name : String) (members : List (String × Json)) : Decidable (NamedOnce name members) :=
  inferInstanceAs (Decidable (_ ≤ 1))

/-- The shape finds the value in the members, in whatever order they stand. -/
structure Shape.Finds (reading : Reading) (shape : Shape α) (members : List (String × Json))
    (value : α) : Prop where
  once : ∀ field ∈ shape.fields, NamedOnce field.name members
  checks : ∀ field ∈ shape.fields, ∀ json, members.lookup field.name = some json →
    field.check reading (.ofJson json) = .ok ()
  build : ∀ brought : Brought,
    (∀ field ∈ shape.fields,
      brought.lookup field.name = (members.lookup field.name).map .ofJson) →
    shape.build reading brought = .ok value

theorem finds_pure (value : α) : (pure value : Shape α).Finds reading members value where
  once _ isField := nomatch isField
  checks _ isField := nomatch isField
  build _ _ := rfl

theorem Shape.Finds.seq {function : Shape (α → β)} {argument : Shape α} {apply : α → β}
    (findsFunction : function.Finds reading members apply)
    (findsArgument : argument.Finds reading members value) :
    (function <*> argument).Finds reading members (apply value) where
  once field isField := (List.mem_append.mp isField).elim (findsFunction.once field)
    (findsArgument.once field)
  checks field isField := (List.mem_append.mp isField).elim (findsFunction.checks field)
    (findsArgument.checks field)
  build := by
    intro brought found
    have first := findsFunction.build brought fun field isField =>
      found field (List.mem_append_left _ isField)
    have second := findsArgument.build brought fun field isField =>
      found field (List.mem_append_right _ isField)
    change (do
      let apply ← function.build reading brought
      let value ← argument.build reading brought
      return apply value) = _
    rw [first, second]
    rfl

theorem Shape.Finds.map {argument : Shape α} (apply : α → β)
    (finds : argument.Finds reading members value) :
    (apply <$> argument).Finds reading members (apply value) :=
  (finds_pure apply).seq finds

theorem finds_field (field : Field α) {json : Json}
    (decoded : field.decoder reading (.ofJson json) = .ok value)
    (given : members.lookup field.name = some json) (once : NamedOnce field.name members) :
    field.toShape.Finds reading members value where
  once := by simpa [Field.toShape, Field.toCheck] using once
  checks := by
    intro check isCheck other found
    cases List.mem_singleton.mp isCheck
    cases given.symm.trans found
    change (field.decoder reading (.ofJson json)).map (fun _ => ()) = _
    rw [decoded]
    rfl
  build := by
    intro brought found
    have lookup := found field.toCheck (List.mem_singleton_self _)
    change brought.lookup field.name = (members.lookup field.name).map .ofJson at lookup
    change field.get reading brought = _
    rw [Field.get, lookup, given]
    exact decoded

theorem finds_absent (field : Field α) (absent : members.lookup field.name = none)
    (otherwise : field.absent = some value) (once : NamedOnce field.name members) :
    field.toShape.Finds reading members value where
  once := by simpa [Field.toShape, Field.toCheck] using once
  checks := by
    intro check isCheck other found
    cases List.mem_singleton.mp isCheck
    cases absent.symm.trans found
  build := by
    intro brought found
    have lookup := found field.toCheck (List.mem_singleton_self _)
    change brought.lookup field.name = (members.lookup field.name).map .ofJson at lookup
    change field.get reading brought = _
    rw [Field.get, lookup, absent, otherwise]
    rfl

theorem lookup_eq_none_of_notMem {γ : Type} {name : String} {entries : List (String × γ)}
    (absent : name ∉ entries.map (·.1)) : entries.lookup name = none := by
  rw [List.lookup_eq_none_iff]
  intro entry isEntry
  rw [bne_iff_ne]
  rintro rfl
  exact absent (List.mem_map_of_mem isEntry)

section Bringing

variable {fields : List FieldCheck} {brought : Brought} {name : String} {json : Json}

/-- A member that no field asks for is passed over. -/
theorem bringMembers_unknown (unknown : fields.find? (·.name == name) = none)
    (rest : List (String × Json)) :
    bringMembers fields reading brought (Tree.ofMembers ((name, json) :: rest)) =
      bringMembers fields reading brought (Tree.ofMembers rest) := by
  rw [Tree.ofMembers, bringMembers]
  simp only [bind, Except.bind, mapError_ok, unknown, skip_ofJson]

theorem NamedOnce.of_cons {other : String} (once : NamedOnce other ((name, json) :: members)) :
    NamedOnce other members := by
  simp only [NamedOnce, List.map_cons, List.count_cons] at once ⊢
  omega

theorem NamedOnce.notMem (once : NamedOnce name ((name, json) :: members)) :
    name ∉ members.map (·.1) := by
  rw [NamedOnce, List.map_cons, List.count_cons_self] at once
  exact List.count_eq_zero.mp (by omega)

/-- All members that belong to a field are brought, and all others are passed over. -/
theorem bringMembers_loose (fields : List FieldCheck) (brought : Brought)
    (once : ∀ field ∈ fields, NamedOnce field.name members)
    (checked : ∀ field ∈ fields, ∀ json, members.lookup field.name = some json →
      field.check reading (.ofJson json) = .ok ())
    (fresh : ∀ field ∈ fields, field.name ∈ members.map (·.1) → brought.lookup field.name = none) :
    ∃ all, bringMembers fields reading brought (Tree.ofMembers members) = .ok all ∧
      ∀ field ∈ fields, all.lookup field.name =
        (brought.lookup field.name).or ((members.lookup field.name).map .ofJson) := by
  induction members generalizing brought with
  | nil => exact ⟨brought, rfl, fun field isField => by simp⟩
  | cons member rest ih =>
    obtain ⟨name, json⟩ := member
    have onceRest : ∀ field ∈ fields, NamedOnce field.name rest :=
      fun field isField => (once field isField).of_cons
    cases known : fields.find? (·.name == name) with
    | none =>
      have differ : ∀ field ∈ fields, field.name ≠ name := by
        simpa using List.find?_eq_none.mp known
      have checkedRest : ∀ field ∈ fields, ∀ other, rest.lookup field.name = some other →
          field.check reading (.ofJson other) = .ok () := by
        intro field isField other found
        exact checked field isField other (by rwa [lookup_cons_of_ne (differ field isField)])
      obtain ⟨all, brings, lookups⟩ := ih brought onceRest checkedRest
        fun field isField isLater => fresh field isField (List.mem_cons_of_mem _ isLater)
      refine ⟨all, (bringMembers_unknown known rest).trans brings, fun field isField => ?_⟩
      rw [lookups field isField, lookup_cons_of_ne (differ field isField)]
    | some owner =>
      have isOwner : owner ∈ fields := List.mem_of_find?_eq_some known
      have ownerName : owner.name = name := by simpa using List.find?_some known
      subst ownerName
      have onlyHere : owner.name ∉ rest.map (·.1) := (once owner isOwner).notMem
      have new : brought.lookup owner.name = none := fresh owner isOwner (List.mem_cons_self ..)
      have sound : owner.check reading (.ofJson json) = .ok () :=
        checked owner isOwner json (List.lookup_cons_self ..)
      have checkedRest : ∀ field ∈ fields, ∀ other, rest.lookup field.name = some other →
          field.check reading (.ofJson other) = .ok () := by
        intro field isField other found
        have differ : field.name ≠ owner.name := by
          intro same
          rw [same, lookup_eq_none_of_notMem onlyHere] at found
          cases found
        exact checked field isField other (by rwa [lookup_cons_of_ne differ])
      -- what is brought now belongs to no later member, so those are still fresh
      have freshRest : ∀ field ∈ fields, field.name ∈ rest.map (·.1) →
          ((owner.name, Tree.ofJson json) :: brought).lookup field.name = none := by
        intro field isField isLater
        have differ : field.name ≠ owner.name := fun same => onlyHere (same ▸ isLater)
        rw [lookup_cons_of_ne differ]
        exact fresh field isField (List.mem_cons_of_mem _ isLater)
      obtain ⟨all, brings, lookups⟩ := ih _ onceRest checkedRest freshRest
      refine ⟨all, (bringMembers_known known new sound rest).trans brings, fun field isField => ?_⟩
      rw [lookups field isField]
      by_cases same : field.name = owner.name
      · rw [same, List.lookup_cons_self, List.lookup_cons_self, new]
        rfl
      · rw [lookup_cons_of_ne same, lookup_cons_of_ne same]

end Bringing

/-- A record is read from an object in which its shape finds it. -/
theorem decode_object {reader : RecordReader α} {inner : Reading}
    (entered : enter reading = .ok inner) (finds : reader.shape.Finds inner members value) :
    reader.decode reading (.ofJson (.object members)) = .ok value := by
  obtain ⟨all, brings, lookups⟩ := bringMembers_loose reader.shape.fields [] finds.once finds.checks
    fun _ _ _ => rfl
  have built := finds.build all fun field isField => by simpa using lookups field isField
  rw [Tree.ofJson, RecordReader.decode, entered]
  simp only [bind, Except.bind, brings]
  exact built

end Objects

section Arrays

/-- All items are brought under the names of their fields. -/
theorem bringItems_ofItems (name : String) (count : Nat) {fields : List FieldCheck}
    (accepts : List.Forall₂ (FieldCheck.Accepts reading) fields members)
    (distinct : (members.map (·.1)).Nodup) (brought : Brought) :
    ∃ all, bringItems name count reading .closed brought fields
        (Tree.ofItems (members.map (·.2))) = .ok all ∧
      (∀ member ∈ members, all.lookup member.1 = some (.ofJson member.2)) ∧
      ∀ other, other ∉ members.map (·.1) → all.lookup other = brought.lookup other := by
  induction accepts generalizing brought with
  | nil => exact ⟨brought, rfl, fun _ isMember => (List.not_mem_nil isMember).elim, fun _ _ => rfl⟩
  | @cons field member fields rest head tail ih =>
    obtain ⟨nameEq, checked⟩ := head
    obtain ⟨onlyHere, distinctRest⟩ := List.nodup_cons.mp distinct
    obtain ⟨all, brings, lookups, kept⟩ := ih distinctRest ((field.name, .ofJson member.2) :: brought)
    refine ⟨all, ?_, ?_, ?_⟩
    · rw [List.map_cons, Tree.ofItems, bringItems, checked]
      exact brings
    · intro other isMember
      rcases List.mem_cons.mp isMember with rfl | isLater
      · rw [kept other.1 onlyHere, nameEq, List.lookup_cons_self]
      · exact lookups other isLater
    · intro other absent
      rw [List.map_cons, List.mem_cons, not_or] at absent
      rw [kept other absent.2, lookup_cons_of_ne (nameEq ▸ absent.1)]

theorem depthItems_values (members : List (String × Json)) :
    depthItems (members.map (·.2)) = depthMembers members := by
  induction members with
  | nil => rfl
  | cons member rest ih => rw [List.map_cons, depthItems, depthMembers, ih]

theorem reads_items {reader : RecordReader α} (describes : reader.shape.Describes members value)
    (distinct : (members.map (·.1)).Nodup) :
    Reads reader.decode (.array (members.map (·.2))) value := by
  intro reading admits
  obtain ⟨inner, entered, innerAdmits⟩ := enter_of_admits admits
  rw [depthItems_values] at innerAdmits
  obtain ⟨all, brings, lookups, -⟩ := bringItems_ofItems reader.name reader.shape.fields.length
    (describes.checks inner innerAdmits) distinct []
  have built := describes.build inner all innerAdmits lookups
  rw [Tree.ofJson, RecordReader.decode, entered]
  simp only [bind, Except.bind, brings]
  exact built

/-- Every item has been checked by its field. -/
theorem checked_of_bringItems {name : String} {count : Nat} {stop : Stop}
    {fields : List FieldCheck} {items : List Json} {brought all : Brought}
    (brings : bringItems name count reading stop brought fields (Tree.ofItems items) = .ok all)
    {place : Nat} {field : FieldCheck} {json : Json} (isField : fields[place]? = some field)
    (isItem : items[place]? = some json) : field.check reading (.ofJson json) = .ok () := by
  induction fields generalizing items brought place with
  | nil => simp at isField
  | cons first fields ih =>
    cases items with
    | nil => simp at isItem
    | cons item items =>
      rw [Tree.ofItems, bringItems] at brings
      obtain ⟨_, checked, brings⟩ := exists_of_bind brings
      cases place with
      | zero =>
        cases isField
        cases isItem
        exact checked
      | succ place => exact ih brings isField isItem

/-- A record that is read out of a text opens one bracket for its items. -/
theorem decoded_of_decodeItems {levels : Nat} {reader : RecordReader α} {items : List Json}
    (place : Nat) (field : Field β) (json : Json)
    (decoded : reader.decode ⟨.text, levels⟩ (.ofJson (.array items)) = .ok value)
    (isItem : items[place]? = some json)
    (isField : reader.shape.fields[place]? = some field.toCheck) :
    ∃ fewer part, levels = fewer + 1 ∧ field.decoder ⟨.text, fewer⟩ (.ofJson json) = .ok part := by
  rw [Tree.ofJson, RecordReader.decode] at decoded
  obtain ⟨inner, entered, decoded⟩ := exists_of_bind decoded
  obtain ⟨brought, brings, -⟩ := exists_of_bind decoded
  obtain ⟨fewer, rfl, rfl⟩ := levels_of_enter entered
  obtain ⟨part, decodedPart, -⟩ := exists_of_map (checked_of_bringItems brings isField isItem)
  exact ⟨fewer, part, rfl, decodedPart⟩

end Arrays

end EventCorrelation.Json
