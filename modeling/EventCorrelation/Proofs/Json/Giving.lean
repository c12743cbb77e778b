import EventCorrelation.Json.Record
import EventCorrelation.Proofs.Outcomes

/-!
# What decoders give

A decoder that succeeds has made its value from parts of the tree it was given. So a property of the
values that come out follows from one of the trees that parts of trees inherit, field by field of a
record and item by item of a list.
-/

namespace EventCorrelation.Json

variable {α β : Type} {sound : Tree → Prop} {reading : Reading}

/-- Items and members are sound if the whole is. -/
structure Hereditary (sound : Tree → Prop) : Prop where
  items : ∀ {items : List Tree} {stop : Stop}, sound (.array items stop) →
    ∀ item ∈ items, sound item
  members : ∀ {members : List (Except Fault String × Tree)} {stop : Stop},
    sound (.object members stop) → ∀ member ∈ members, sound member.2

/-- Every value that the decoder makes of a sound tree in this reading has the property. -/
def Gives (sound : Tree → Prop) (reading : Reading) (decoder : Decoder α)
    (property : α → Prop) : Prop :=
  ∀ tree value, sound tree → decoder reading tree = .ok value → property value

/-- Every value that the shape makes of sound fields in this reading has the property. -/
def Shape.Gives (sound : Tree → Prop) (reading : Reading) (shape : Shape α)
    (property : α → Prop) : Prop :=
  ∀ brought value, (∀ part ∈ brought, sound part.2) → shape.build reading brought = .ok value →
    property value

theorem Shape.gives_any (shape : Shape α) : shape.Gives sound reading fun _ => True :=
  fun _ _ _ _ => trivial

theorem Shape.Gives.seq {function : Shape (α → β)} {argument : Shape α} {property : α → Prop}
    {whole : β → Prop}
    (givesFunction : function.Gives sound reading fun apply =>
      ∀ value, property value → whole (apply value))
    (givesArgument : argument.Gives sound reading property) :
    (function <*> argument).Gives sound reading whole := by
  intro brought result soundParts built
  obtain ⟨apply, builtFunction, built⟩ := exists_of_bind built
  obtain ⟨value, builtArgument, built⟩ := exists_of_bind built
  cases built
  exact givesFunction brought apply soundParts builtFunction value
    (givesArgument brought value soundParts builtArgument)

theorem Shape.Gives.map {argument : Shape α} {property : α → Prop} {apply : α → β}
    {whole : β → Prop} (givesArgument : argument.Gives sound reading property)
    (each : ∀ value, property value → whole (apply value)) :
    (apply <$> argument).Gives sound reading whole :=
  .seq (fun _ _ _ built => by cases built; exact each) givesArgument

/-- A field gives what its decoder gives, or what stands for it if it is left out. -/
theorem gives_field {field : Field α} {property : α → Prop}
    (given : Gives sound reading field.decoder property)
    (absent : ∀ value ∈ field.absent, property value) :
    field.toShape.Gives sound reading property := by
  intro brought value soundParts built
  change field.get reading brought = .ok value at built
  unfold Field.get at built
  split at built
  · next tree found =>
    obtain ⟨front, back, rfl, -⟩ := List.lookup_eq_some_iff.mp found
    exact given tree value (soundParts (field.name, tree) (by simp)) built
  · split at built
    · next otherwise => cases built; exact absent _ otherwise
    · cases built

theorem gives_required {decoder : Decoder α} {property : α → Prop} (name : String)
    (given : Gives sound reading decoder property) :
    (required name decoder).Gives sound reading property :=
  gives_field given nofun

theorem gives_optional {decoder : Decoder α} {property : α → Prop} (name : String) {absent : α}
    (given : Gives sound reading decoder property)
    (otherwise : property absent) : (optional name decoder absent).Gives sound reading property :=
  gives_field given fun _ given => by cases given; exact otherwise

section Lists

theorem exists_item_of_mapM {item : Tree → Except Complaint α} {items : List Tree}
    {values : List α} (decoded : items.mapM item = .ok values) {value : α}
    (isValue : value ∈ values) : ∃ tree ∈ items, item tree = .ok value := by
  induction items generalizing values with
  | nil =>
    cases decoded
    cases isValue
  | cons tree rest ih =>
    rw [List.mapM_cons] at decoded
    obtain ⟨first, decodedFirst, decoded⟩ := exists_of_bind decoded
    obtain ⟨later, decodedRest, decoded⟩ := exists_of_bind decoded
    cases decoded
    rcases List.mem_cons.mp isValue with rfl | isLater
    · exact ⟨tree, List.mem_cons_self .., decodedFirst⟩
    · obtain ⟨other, isItem, decodedOther⟩ := ih decodedRest isLater
      exact ⟨other, List.mem_cons_of_mem _ isItem, decodedOther⟩

/-- A list gives what its items give behind the bracket that it opens. -/
theorem gives_list (hereditary : Hereditary sound) {item : Decoder α} {property : α → Prop}
    (given : ∀ inner, enter reading = .ok inner → Gives sound inner item property) :
    Gives sound reading (decodeList item) fun values => ∀ value ∈ values, property value := by
  intro tree values soundTree decoded value isValue
  unfold decodeList at decoded
  split at decoded
  · obtain ⟨inner, entered, decoded⟩ := exists_of_bind decoded
    obtain ⟨all, decodedItems, decoded⟩ := exists_of_bind decoded
    obtain ⟨_, -, decoded⟩ := exists_of_bind decoded
    cases decoded
    obtain ⟨part, isItem, decodedPart⟩ := exists_item_of_mapM decodedItems isValue
    exact given inner entered part value (hereditary.items soundTree part isItem) decodedPart
  · cases decoded

end Lists

section Records

variable {fields : List FieldCheck} {brought all : Brought}

theorem sound_of_bringMembers {members : List (Except Fault String × Tree)}
    (soundBrought : ∀ part ∈ brought, sound part.2)
    (soundMembers : ∀ member ∈ members, sound member.2)
    (brings : bringMembers fields reading brought members = .ok all) :
    ∀ part ∈ all, sound part.2 := by
  induction members generalizing brought with
  | nil =>
    cases brings
    exact soundBrought
  | cons member rest ih =>
    obtain ⟨soundFirst, soundRest⟩ := List.forall_mem_cons.mp soundMembers
    rw [bringMembers] at brings
    obtain ⟨name, -, brings⟩ := exists_of_bind brings
    split at brings
    · obtain ⟨_, -, brings⟩ := exists_of_bind brings
      exact ih soundBrought soundRest brings
    · split at brings
      · cases brings
      · obtain ⟨_, -, brings⟩ := exists_of_bind brings
        exact ih (List.forall_mem_cons.mpr ⟨soundFirst, soundBrought⟩) soundRest brings

theorem sound_of_bringItems {name : String} {count : Nat} {stop : Stop} {items : List Tree}
    (soundBrought : ∀ part ∈ brought, sound part.2) (soundItems : ∀ item ∈ items, sound item)
    (brings : bringItems name count reading stop brought fields items = .ok all) :
    ∀ part ∈ all, sound part.2 := by
  induction fields generalizing brought items with
  | nil =>
    cases items with
    | nil =>
      obtain ⟨_, -, brings⟩ := exists_of_bind brings
      cases brings
      exact soundBrought
    | cons item rest => cases brings
  | cons field fields ih =>
    cases items with
    | nil =>
      obtain ⟨_, -, brings⟩ := exists_of_bind brings
      split at brings
      · exact ih soundBrought soundItems brings
      · cases brings
    | cons item rest =>
      obtain ⟨soundFirst, soundRest⟩ := List.forall_mem_cons.mp soundItems
      obtain ⟨_, -, brings⟩ := exists_of_bind brings
      exact ih (List.forall_mem_cons.mpr ⟨soundFirst, soundBrought⟩) soundRest brings

/-- A record gives what its shape gives behind the bracket that it opens. -/
theorem gives_record (hereditary : Hereditary sound) {reader : RecordReader α}
    {property : α → Prop}
    (given : ∀ inner, enter reading = .ok inner → reader.shape.Gives sound inner property) :
    Gives sound reading reader.decode property := by
  intro tree value soundTree decoded
  unfold RecordReader.decode at decoded
  split at decoded
  · obtain ⟨inner, entered, decoded⟩ := exists_of_bind decoded
    obtain ⟨brought, brings, decoded⟩ := exists_of_bind decoded
    obtain ⟨_, -, built⟩ := exists_of_bind decoded
    have soundParts := sound_of_bringMembers nofun (hereditary.members soundTree) brings
    exact given inner entered brought value soundParts built
  · obtain ⟨inner, entered, decoded⟩ := exists_of_bind decoded
    obtain ⟨brought, brings, built⟩ := exists_of_bind decoded
    have soundParts := sound_of_bringItems nofun (hereditary.items soundTree) brings
    exact given inner entered brought value soundParts built
  · cases decoded

end Records

end EventCorrelation.Json
