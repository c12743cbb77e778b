import EventCorrelation.Proofs.Json.Giving
import EventCorrelation.Proofs.Json.Records

/-!
# What a successful decoder has seen

A decoder that reads a text to its end has opened every bracket on its way, so what it looked at
nests no deeper than it may. Of the members of an object that holds of those that belong to a field;
all others are passed over without a limit.

The values that come out have the members of their objects sorted.
-/

namespace EventCorrelation.Json

variable {α β : Type} {reading : Reading} {levels : Nat} {value : α}

/-- In a text, a bracket that is opened uses up a level. -/
theorem levels_of_enter {inner : Reading} (entered : enter ⟨.text, levels⟩ = .ok inner) :
    ∃ fewer, levels = fewer + 1 ∧ inner = ⟨.text, fewer⟩ := by
  cases levels with
  | zero => cases entered
  | succ fewer => cases entered; exact ⟨fewer, rfl, rfl⟩

section Depths

mutual

/-- A value that is read out of a text nests no deeper than the text may. -/
theorem depth_le_of_decodeJson : (json : Json) → (levels : Nat) → {value : Json} →
    decodeJson ⟨.text, levels⟩ (.ofJson json) = .ok value → json.depth ≤ levels
  | .null, _, _, _ | .bool _, _, _, _ | .number _, _, _, _ | .string _, _, _, _ => Nat.zero_le _
  | .array items, levels, value, decoded => by
    rw [Tree.ofJson, decodeJson] at decoded
    obtain ⟨inner, entered, decoded⟩ := exists_of_bind decoded
    obtain ⟨values, decodedItems, -⟩ := exists_of_bind decoded
    obtain ⟨fewer, rfl, rfl⟩ := levels_of_enter entered
    exact Nat.succ_le_succ (depthItems_le_of_decodeJsonItems items fewer decodedItems)
  | .object members, levels, value, decoded => by
    rw [Tree.ofJson, decodeJson] at decoded
    obtain ⟨inner, entered, decoded⟩ := exists_of_bind decoded
    obtain ⟨values, decodedMembers, -⟩ := exists_of_bind decoded
    obtain ⟨fewer, rfl, rfl⟩ := levels_of_enter entered
    exact Nat.succ_le_succ (depthMembers_le_of_decodeJsonMembers members fewer decodedMembers)
termination_by structural json => json

theorem depthItems_le_of_decodeJsonItems : (items : List Json) → (levels : Nat) →
    {values : List Json} → decodeJsonItems ⟨.text, levels⟩ (Tree.ofItems items) = .ok values →
    depthItems items ≤ levels
  | [], _, _, _ => Nat.zero_le _
  | item :: rest, levels, values, decoded => by
    rw [Tree.ofItems, decodeJsonItems] at decoded
    obtain ⟨first, decodedFirst, decoded⟩ := exists_of_bind decoded
    obtain ⟨others, decodedRest, -⟩ := exists_of_bind decoded
    exact Nat.max_le.mpr ⟨depth_le_of_decodeJson item levels decodedFirst,
      depthItems_le_of_decodeJsonItems rest levels decodedRest⟩
termination_by structural items => items

theorem depthMembers_le_of_decodeJsonMembers : (members : List (String × Json)) →
    (levels : Nat) → {values : List (String × Json)} →
    decodeJsonMembers ⟨.text, levels⟩ (Tree.ofMembers members) = .ok values →
    depthMembers members ≤ levels
  | [], _, _, _ => Nat.zero_le _
  | (name, value) :: rest, levels, values, decoded => by
    rw [Tree.ofMembers, decodeJsonMembers] at decoded
    obtain ⟨_, -, decoded⟩ := exists_of_bind decoded
    obtain ⟨first, decodedFirst, decoded⟩ := exists_of_bind decoded
    obtain ⟨others, decodedRest, -⟩ := exists_of_bind decoded
    exact Nat.max_le.mpr ⟨depth_le_of_decodeJson value levels decodedFirst,
      depthMembers_le_of_decodeJsonMembers rest levels decodedRest⟩
termination_by structural members => members

end

end Depths

section Parts

theorem decoded_of_mapM {item : Decoder α} {items : List Json} {values : List α}
    (decoded : (Tree.ofItems items).mapM (item reading) = .ok values) {json : Json}
    (isItem : json ∈ items) : ∃ value, item reading (.ofJson json) = .ok value := by
  induction items generalizing values with
  | nil => cases isItem
  | cons head rest ih =>
    rw [Tree.ofItems, List.mapM_cons] at decoded
    obtain ⟨first, decodedFirst, decoded⟩ := exists_of_bind decoded
    obtain ⟨later, decodedRest, -⟩ := exists_of_bind decoded
    rcases List.mem_cons.mp isItem with rfl | isLater
    · exact ⟨first, decodedFirst⟩
    · exact ih decodedRest isLater

/-- A list that is read out of a text opens one bracket for its items. -/
theorem decoded_of_decodeList {item : Decoder α} {items : List Json} {values : List α}
    (decoded : decodeList item ⟨.text, levels⟩ (.ofJson (.array items)) = .ok values)
    {json : Json} (isItem : json ∈ items) :
    ∃ fewer value, levels = fewer + 1 ∧ item ⟨.text, fewer⟩ (.ofJson json) = .ok value := by
  rw [Tree.ofJson, decodeList] at decoded
  obtain ⟨inner, entered, decoded⟩ := exists_of_bind decoded
  obtain ⟨others, decodedItems, -⟩ := exists_of_bind decoded
  obtain ⟨fewer, rfl, rfl⟩ := levels_of_enter entered
  obtain ⟨value, decodedItem⟩ := decoded_of_mapM decodedItems isItem
  exact ⟨fewer, value, rfl, decodedItem⟩

/-- Every member that belongs to a field has been checked. -/
theorem checked_of_bringMembers {fields : List FieldCheck} {members : List (String × Json)}
    {brought all : Brought}
    (brings : bringMembers fields reading brought (Tree.ofMembers members) = .ok all)
    {name : String} {json : Json} (isMember : (name, json) ∈ members) {field : FieldCheck}
    (found : fields.find? (·.name == name) = some field) :
    field.check reading (.ofJson json) = .ok () := by
  induction members generalizing brought with
  | nil => cases isMember
  | cons head rest ih =>
    obtain ⟨headName, headJson⟩ := head
    rw [Tree.ofMembers, bringMembers] at brings
    simp only [mapError_ok, bind, Except.bind] at brings
    rcases List.mem_cons.mp isMember with same | isLater
    · cases same
      rw [found] at brings
      dsimp only at brings
      split at brings
      · cases brings
      · obtain ⟨_, checked, -⟩ := exists_of_bind brings
        exact checked
    · split at brings
      · obtain ⟨_, -, brings⟩ := exists_of_bind brings
        exact ih brings isLater
      · split at brings
        · cases brings
        · obtain ⟨_, -, brings⟩ := exists_of_bind brings
          exact ih brings isLater

/-- A record that is read out of a text opens one bracket for its fields. -/
theorem decoded_of_decodeRecord {reader : RecordReader α} {members : List (String × Json)}
    (field : Field β) (json : Json)
    (decoded : reader.decode ⟨.text, levels⟩ (.ofJson (.object members)) = .ok value)
    (isMember : (field.name, json) ∈ members)
    (found : reader.shape.fields.find? (·.name == field.name) = some field.toCheck) :
    ∃ fewer part, levels = fewer + 1 ∧ field.decoder ⟨.text, fewer⟩ (.ofJson json) = .ok part := by
  rw [Tree.ofJson, RecordReader.decode] at decoded
  obtain ⟨inner, entered, decoded⟩ := exists_of_bind decoded
  obtain ⟨brought, brings, -⟩ := exists_of_bind decoded
  obtain ⟨fewer, rfl, rfl⟩ := levels_of_enter entered
  obtain ⟨part, decodedPart, -⟩ := exists_of_map (checked_of_bringMembers brings isMember found)
  exact ⟨fewer, part, rfl, decodedPart⟩

end Parts

section Builds

/-- Whatever value the shape builds, it has the property. -/
def Shape.Makes (shape : Shape α) (property : α → Prop) : Prop :=
  ∀ reading brought value, shape.build reading brought = .ok value → property value

/-- Any tree will do. -/
theorem Shape.makes_iff {shape : Shape α} {property : α → Prop} :
    shape.Makes property ↔ ∀ reading, shape.Gives (fun _ => True) reading property :=
  ⟨fun makes reading brought value _ => makes reading brought value,
    fun gives reading brought value => gives reading brought value fun _ _ => trivial⟩

theorem makes_any (shape : Shape α) : shape.Makes fun _ => True := fun _ _ _ _ => trivial

theorem Shape.Makes.seq {function : Shape (α → β)} {argument : Shape α} {property : α → Prop}
    {whole : β → Prop}
    (makesFunction : function.Makes fun apply => ∀ value, property value → whole (apply value))
    (makesArgument : argument.Makes property) : (function <*> argument).Makes whole :=
  makes_iff.mpr fun reading =>
    .seq (makes_iff.mp makesFunction reading) (makes_iff.mp makesArgument reading)

theorem Shape.Makes.map {argument : Shape α} {property : α → Prop} {apply : α → β}
    {whole : β → Prop} (makesArgument : argument.Makes property)
    (each : ∀ value, property value → whole (apply value)) : (apply <$> argument).Makes whole :=
  makes_iff.mpr fun reading => .map (makes_iff.mp makesArgument reading) each

/-- A field whose decoder gives only values with a property, and whose value has it if it is left
out. -/
theorem makes_field {field : Field α} {property : α → Prop}
    (decoded : ∀ reading tree value, field.decoder reading tree = .ok value → property value)
    (absent : ∀ value ∈ field.absent, property value) : field.toShape.Makes property :=
  Shape.makes_iff.mpr fun reading =>
    gives_field (fun tree value _ => decoded reading tree value) absent

/-- A record that is read is built from its fields. -/
theorem Shape.Makes.decode {reader : RecordReader α} {property : α → Prop} {tree : Tree}
    (makes : reader.shape.Makes property) (decoded : reader.decode reading tree = .ok value) :
    property value := by
  have anyTree : Hereditary fun _ => True := ⟨fun _ _ _ => trivial, fun _ _ _ => trivial⟩
  exact gives_record anyTree (fun inner _ => makes_iff.mp makes inner) tree value trivial decoded

end Builds

section Sorting

variable {name : String} {json : Json} {members : List (String × Json)}

theorem mem_insertMember {other : String}
    (isMember : other ∈ (insertMember name json members).map (·.1)) :
    other = name ∨ other ∈ members.map (·.1) := by
  obtain ⟨member, isInserted, rfl⟩ := List.mem_map.mp isMember
  rcases List.mem_cons.mp (insertMember_subset _ _ _ isInserted) with rfl | isOther
  · exact .inl rfl
  · exact .inr (List.mem_map_of_mem isOther)

theorem pairwise_insertMember (sorted : (members.map (·.1)).Pairwise (· < ·)) :
    ((insertMember name json members).map (·.1)).Pairwise (· < ·) := by
  induction members with
  | nil => exact List.pairwise_singleton ..
  | cons head rest ih =>
    obtain ⟨headName, headJson⟩ := head
    have split := List.pairwise_cons.mp sorted
    unfold insertMember
    split
    · next less =>
      refine List.pairwise_cons.mpr ⟨fun other isOther => ?_, sorted⟩
      rcases List.mem_cons.mp isOther with rfl | isLater
      · exact less
      · exact String.lt_trans less (split.1 other isLater)
    · next notLess =>
      split
      · next same => exact same ▸ sorted
      · next differs =>
        have greater : headName < name :=
          Std.lt_of_le_of_ne (String.not_lt.mp notLess) (Ne.symm differs)
        refine List.pairwise_cons.mpr ⟨fun other isOther => ?_, ih split.2⟩
        rcases mem_insertMember isOther with rfl | isLater
        · exact greater
        · exact split.1 other isLater

theorem sortedMembers_insertMember (sortedValue : json.Sorted) (sorted : SortedMembers members) :
    SortedMembers (insertMember name json members) := by
  induction members with
  | nil => exact ⟨sortedValue, trivial⟩
  | cons head rest ih =>
    obtain ⟨headName, headJson⟩ := head
    unfold insertMember
    split
    · exact ⟨sortedValue, sorted⟩
    · split
      · exact ⟨sortedValue, sorted.2⟩
      · exact ⟨sorted.1, ih sorted.2⟩

/-- Members with sorted values make a sorted object once they are sorted themselves. -/
theorem sorted_sortMembers (sorted : SortedMembers members) :
    (Json.object (sortMembers members)).Sorted := by
  have inserted : ∀ front, (Json.object front).Sorted →
      (Json.object (members.foldl (fun sorted member => insertMember member.1 member.2 sorted)
        front)).Sorted := by
    induction members with
    | nil => exact fun front sortedFront => sortedFront
    | cons head rest ih =>
      intro front sortedFront
      exact ih sorted.2 _
        ⟨pairwise_insertMember sortedFront.1, sortedMembers_insertMember sorted.1 sortedFront.2⟩
  exact inserted [] ⟨.nil, trivial⟩

mutual

/-- The members of every object that is read are sorted. -/
theorem sorted_of_decodeJson : (tree : Tree) → (reading : Reading) → {value : Json} →
    decodeJson reading tree = .ok value → value.Sorted
  | .null, _, _, decoded | .bool _, _, _, decoded => by cases decoded; trivial
  | .number (.ok _), _, _, decoded | .string (.ok _), _, _, decoded => by cases decoded; trivial
  | .number (.error _), _, _, decoded | .string (.error _), _, _, decoded => by cases decoded
  | .array items stop, reading, _, decoded => by
    rw [decodeJson] at decoded
    obtain ⟨inner, -, decoded⟩ := exists_of_bind decoded
    obtain ⟨values, decodedItems, decoded⟩ := exists_of_bind decoded
    obtain ⟨_, -, decoded⟩ := exists_of_bind decoded
    cases decoded
    exact sortedItems_of_decodeJsonItems items inner decodedItems
  | .object members stop, reading, _, decoded => by
    rw [decodeJson] at decoded
    obtain ⟨inner, -, decoded⟩ := exists_of_bind decoded
    obtain ⟨values, decodedMembers, decoded⟩ := exists_of_bind decoded
    obtain ⟨_, -, decoded⟩ := exists_of_bind decoded
    cases decoded
    exact sorted_sortMembers (sortedMembers_of_decodeJsonMembers members inner decodedMembers)
  | .broken _ _, _, _, decoded => by cases decoded
termination_by structural tree => tree

theorem sortedItems_of_decodeJsonItems : (items : List Tree) → (reading : Reading) →
    {values : List Json} → decodeJsonItems reading items = .ok values → SortedItems values
  | [], _, _, decoded => by cases decoded; trivial
  | item :: rest, reading, _, decoded => by
    rw [decodeJsonItems] at decoded
    obtain ⟨first, decodedFirst, decoded⟩ := exists_of_bind decoded
    obtain ⟨others, decodedRest, decoded⟩ := exists_of_bind decoded
    cases decoded
    exact ⟨sorted_of_decodeJson item reading decodedFirst,
      sortedItems_of_decodeJsonItems rest reading decodedRest⟩
termination_by structural items => items

theorem sortedMembers_of_decodeJsonMembers : (members : List (Except Fault String × Tree)) →
    (reading : Reading) → {values : List (String × Json)} →
    decodeJsonMembers reading members = .ok values → SortedMembers values
  | [], _, _, decoded => by cases decoded; trivial
  | (name, value) :: rest, reading, _, decoded => by
    rw [decodeJsonMembers] at decoded
    obtain ⟨_, -, decoded⟩ := exists_of_bind decoded
    obtain ⟨first, decodedFirst, decoded⟩ := exists_of_bind decoded
    obtain ⟨others, decodedRest, decoded⟩ := exists_of_bind decoded
    cases decoded
    exact ⟨sorted_of_decodeJson value reading decodedFirst,
      sortedMembers_of_decodeJsonMembers rest reading decodedRest⟩
termination_by structural members => members

end

/-- A field for any value makes a sorted one. -/
theorem makes_sorted (name : String) : (optional name decodeJson .null).Makes Json.Sorted :=
  makes_field (fun reading tree _ decoded => sorted_of_decodeJson tree reading decoded)
    fun _ given => by cases given; trivial

end Sorting

end EventCorrelation.Json
