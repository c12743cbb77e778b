import EventCorrelation.Json.Codec
import EventCorrelation.Proofs.Json.Scanning
import EventCorrelation.Proofs.Json.Sorting
import EventCorrelation.Proofs.Outcomes

/-!
# Decoding what was encoded

A decoder reads a value back from a JSON value if it does so in every reading that may open enough
levels of brackets. Text and tree then make no difference: a spelling of the JSON value that nests no
deeper than the limit decodes to the value as well.
-/

namespace EventCorrelation.Json

variable {α : Type} {reading : Reading} {json : Json} {value : α}

/-- The reading may open this many levels of brackets. -/
def Reading.Admits (reading : Reading) (depth : Nat) : Prop :=
  reading.origin = .text → depth ≤ reading.levels

theorem Reading.Admits.mono {small large : Nat} (admits : reading.Admits large)
    (smaller : small ≤ large) : reading.Admits small :=
  fun isText => Nat.le_trans smaller (admits isText)

/-- Opening a bracket uses up one level. -/
theorem enter_of_admits {depth : Nat} (admits : reading.Admits (depth + 1)) :
    ∃ inner, enter reading = .ok inner ∧ inner.Admits depth := by
  obtain ⟨origin, levels⟩ := reading
  cases origin with
  | text =>
    cases levels with
    | zero => exact absurd (admits rfl) (Nat.not_succ_le_zero depth)
    | succ levels => exact ⟨⟨.text, levels⟩, rfl, fun _ => Nat.le_of_succ_le_succ (admits rfl)⟩
  | kept => exact ⟨⟨.kept, levels⟩, rfl, fun isText => nomatch isText⟩
  | value => exact ⟨⟨.value, levels⟩, rfl, fun isText => nomatch isText⟩

/-- The decoder reads the value from the JSON value, however that is looked at. -/
def Reads (decoder : Decoder α) (json : Json) (value : α) : Prop :=
  ∀ reading : Reading, reading.Admits json.depth → decoder reading (.ofJson json) = .ok value

theorem reads_string (text : String) : Reads decodeString (.string text) text :=
  fun _ _ => rfl

theorem reads_bool (flag : Bool) : Reads decodeBool (.bool flag) flag :=
  fun _ _ => rfl

mutual

/-- Any value is read back in its normal form. -/
theorem decodeJson_ofJson : (json : Json) → (reading : Reading) → reading.Admits json.depth →
    decodeJson reading (.ofJson json) = .ok json.normal
  | .null, _, _ | .bool _, _, _ | .number _, _, _ | .string _, _, _ => rfl
  | .array items, reading, admits => by
    obtain ⟨inner, entered, innerAdmits⟩ := enter_of_admits admits
    have values := decodeJsonItems_ofItems items inner innerAdmits
    rw [Tree.ofJson, decodeJson, entered]
    simp only [bind, Except.bind, values]
    rfl
  | .object members, reading, admits => by
    obtain ⟨inner, entered, innerAdmits⟩ := enter_of_admits admits
    have values := decodeJsonMembers_ofMembers members inner innerAdmits
    rw [Tree.ofJson, decodeJson, entered]
    simp only [bind, Except.bind, values]
    rfl
termination_by structural json => json

theorem decodeJsonItems_ofItems : (items : List Json) → (reading : Reading) →
    reading.Admits (depthItems items) →
    decodeJsonItems reading (Tree.ofItems items) = .ok (normalItems items)
  | [], _, _ => rfl
  | item :: rest, reading, admits => by
    have head := decodeJson_ofJson item reading (admits.mono (Nat.le_max_left ..))
    have tail := decodeJsonItems_ofItems rest reading (admits.mono (Nat.le_max_right ..))
    rw [Tree.ofItems, decodeJsonItems, head]
    simp only [bind, Except.bind, tail]
    rfl
termination_by structural items => items

theorem decodeJsonMembers_ofMembers : (members : List (String × Json)) → (reading : Reading) →
    reading.Admits (depthMembers members) →
    decodeJsonMembers reading (Tree.ofMembers members) = .ok (normalMembers members)
  | [], _, _ => rfl
  | (name, value) :: rest, reading, admits => by
    have head := decodeJson_ofJson value reading (admits.mono (Nat.le_max_left ..))
    have tail := decodeJsonMembers_ofMembers rest reading (admits.mono (Nat.le_max_right ..))
    rw [Tree.ofMembers, decodeJsonMembers]
    simp only [bind, Except.bind, mapError_ok, head, tail]
    rfl
termination_by structural members => members

end

theorem reads_json (sorted : json.Sorted) : Reads decodeJson json json := by
  intro reading admits
  rw [decodeJson_ofJson json reading admits, normal_of_sorted json sorted]

section Lists

variable {item : Decoder α} {encode : α → Json} {values : List α}

theorem mapM_ofItems (each : ∀ value ∈ values, Reads item (encode value) value)
    (admits : reading.Admits (depthItems (values.map encode))) :
    (Tree.ofItems (values.map encode)).mapM (item reading) = .ok values := by
  induction values with
  | nil => rfl
  | cons value rest ih =>
    have head := each value (List.mem_cons_self ..) reading (admits.mono (Nat.le_max_left ..))
    have tail := ih (fun other member => each other (List.mem_cons_of_mem _ member))
      (admits.mono (Nat.le_max_right ..))
    rw [List.map_cons, Tree.ofItems, List.mapM_cons, head]
    simp only [bind, Except.bind, tail]
    rfl

/-- A list is read back if its items are. -/
theorem reads_list (each : ∀ value ∈ values, Reads item (encode value) value) :
    Reads (decodeList item) (.array (values.map encode)) values := by
  intro reading admits
  obtain ⟨inner, entered, innerAdmits⟩ := enter_of_admits admits
  have decoded := mapM_ofItems each innerAdmits
  rw [Tree.ofJson, decodeList, entered]
  simp only [bind, Except.bind, decoded]
  rfl

end Lists

/-- A text that spells a value between white space decodes as the value does. -/
theorem decode_eq_of_spells (decoder : Decoder α) {before text behind : List UInt8}
    (isSpaceBefore : IsSpace before) (spelled : Spells json text) (isSpaceBehind : IsSpace behind) :
    decode decoder (before ++ text ++ behind) = decoder ⟨.text, nestingLimit⟩ (.ofJson json) := by
  have skipped : skipSpace behind = [] := by
    have all := skipSpace_append isSpaceBehind []
    rwa [List.append_nil] at all
  rw [decode, ofText_of_spells isSpaceBefore spelled isSpaceBehind]
  cases decoded : decoder ⟨.text, nestingLimit⟩ (.ofJson json) with
  | error complaint => simp only [bind, Except.bind, decoded]
  | ok value =>
    simp only [bind, Except.bind, decoded, skipped]
    rfl

/-- A spelling decodes to what its JSON value is read as, if it does not nest too deep. -/
theorem decode_of_spells {decoder : Decoder α} {before text behind : List UInt8}
    (reads : Reads decoder json value) (shallow : json.depth ≤ nestingLimit)
    (isSpaceBefore : IsSpace before) (spelled : Spells json text)
    (isSpaceBehind : IsSpace behind) :
    decode decoder (before ++ text ++ behind) = .ok value := by
  rw [decode_eq_of_spells decoder isSpaceBefore spelled isSpaceBehind]
  exact reads ⟨.text, nestingLimit⟩ fun _ => shallow

end EventCorrelation.Json
