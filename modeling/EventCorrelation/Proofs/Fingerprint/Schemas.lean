import EventCorrelation.Proofs.Fingerprint.Words
import EventCorrelation.Proofs.Json.Distinct
import EventCorrelation.Proofs.Json.Objects

/-!
# Schemas and fingerprints

Receivers that agree in everything but their schemas have the same digested line exactly if their
schemas are the same. Where the receivers are read from texts, the line depends on the meaning of
the schema only and not on the way in which it is written.
-/

namespace EventCorrelation.NewReceiver

open Json

/-- The definitions are equal in name, type, version and description. -/
structure AgreesButSchema (first second : NewReceiver) : Prop where
  name : first.name = second.name
  type : first.type = second.type
  version : first.version = second.version
  description : first.description = second.description

/-- The value lists the definition, with the schema as it stands there. An object has its members
in any order, may leave out an empty description and an absent schema, and may have members that no
field asks for; an array has the fields in declaration order. -/
inductive ListedIn (new : NewReceiver) : Json → Prop
  | object {members : List (String × Json)}
      (once : ∀ field ∈ reader.shape.fields.map (·.name), NamedOnce field members)
      (name : members.lookup "name" = some (.string new.name))
      (type : members.lookup "type" = some (.string new.type))
      (version : members.lookup "version" = some (.string new.version))
      (description : members.lookup "description" = some (.string new.description) ∨
        members.lookup "description" = none ∧ new.description = "")
      (schema : members.lookup "schema" = some new.schema ∨
        members.lookup "schema" = none ∧ new.schema = .null) : ListedIn new (.object members)
  | array : ListedIn new (.array [.string new.name, .string new.type, .string new.version,
      .string new.description, new.schema])

/-- The text is one of the definition, with the schema as it is written there. -/
inductive WrittenAs (new : NewReceiver) : List UInt8 → Prop
  | intro {json : Json} {before text behind : List UInt8} (listed : new.ListedIn json)
      (isSpaceBefore : IsSpace before) (spelled : Spells json text) (isSpaceBehind : IsSpace behind) :
      WrittenAs new (before ++ text ++ behind)

/-- The definition as it is read, its schema in normal form. -/
def normal (new : NewReceiver) : NewReceiver := { new with schema := new.schema.normal }

section Lines

variable {first second : NewReceiver}

theorem digestInput_eq_iff_compact (agree : first.AgreesButSchema second) :
    first.seed.digestInput = second.seed.digestInput ↔
      first.schema.compact = second.schema.compact := by
  obtain ⟨name, type, version, description, schema⟩ := first
  obtain ⟨_, _, _, _, other⟩ := second
  obtain ⟨rfl, rfl, rfl, rfl⟩ := agree
  refine ⟨fun same => ?_, fun same => ?_⟩
  · by_contra differ
    -- the printed schema is one field of the seed, and all others agree
    have fields (schema : Json) :
        (NewReceiver.mk name type version description schema).seed.fields =
          [type, description, name] ++ schema.compact :: [version] := rfl
    exact FingerprintSeed.words_ne_of_field (fields _) (fields _) differ
      (FingerprintSeed.digestInput_eq_iff_words.mp same)
  · simp only [seed, same]

theorem digestInput_eq_iff_schema (agree : first.AgreesButSchema second)
    (floatFreeFirst : first.schema.FloatFree) (floatFreeSecond : second.schema.FloatFree) :
    first.seed.digestInput = second.seed.digestInput ↔ first.schema = second.schema :=
  (digestInput_eq_iff_compact agree).trans (compact_inj floatFreeFirst floatFreeSecond)

end Lines

section Reading

variable {new read : NewReceiver} {json : Json} {text : List UInt8}

theorem ListedIn.read_eq (listed : new.ListedIn json) (shallow : new.schema.depth < nestingLimit) :
    reader.decode ⟨.text, nestingLimit⟩ (.ofJson json) = .ok new.normal := by
  cases listed with
  | @object members once name type version description schema =>
    let inner : Reading := ⟨.text, nestingLimit - 1⟩
    have decoded : decodeJson inner (.ofJson new.schema) = .ok new.schema.normal :=
      decodeJson_ofJson new.schema inner fun _ => Nat.le_sub_one_of_lt shallow
    have names : reader.shape.fields.map (·.name) =
        ["name", "type", "version", "description", "schema"] := rfl
    rw [names] at once
    have onceName : NamedOnce "name" members := once _ (by decide)
    have onceType : NamedOnce "type" members := once _ (by decide)
    have onceVersion : NamedOnce "version" members := once _ (by decide)
    have onceDescription : NamedOnce "description" members := once _ (by decide)
    have onceSchema : NamedOnce "schema" members := once _ (by decide)
    have findsDescription :
        (optional "description" decodeString "").Finds inner members new.description := by
      let field : Json.Field String := ⟨"description", decodeString, some ""⟩
      rcases description with given | ⟨absent, empty⟩
      · exact finds_field field rfl given onceDescription
      · exact finds_absent field absent (congrArg some empty.symm) onceDescription
    have findsSchema :
        (optional "schema" decodeJson .null).Finds inner members new.schema.normal := by
      let field : Json.Field Json := ⟨"schema", decodeJson, some .null⟩
      rcases schema with given | ⟨absent, null⟩
      · exact finds_field field decoded given onceSchema
      · exact finds_absent field absent (by rw [null]; rfl) onceSchema
    have finds : reader.shape.Finds inner members new.normal :=
      (finds_field ⟨"name", decodeString, none⟩ rfl name onceName).map NewReceiver.mk
        |>.seq (finds_field ⟨"type", decodeString, none⟩ rfl type onceType)
        |>.seq (finds_field ⟨"version", decodeString, none⟩ rfl version onceVersion)
        |>.seq findsDescription
        |>.seq findsSchema
    exact decode_object rfl finds
  | array =>
    have describes : reader.shape.Describes [("name", .string new.name), ("type", .string new.type),
        ("version", .string new.version), ("description", .string new.description),
        ("schema", new.schema)] new.normal :=
      (describes_required "name" (reads_string new.name)).map NewReceiver.mk
        |>.seq (describes_required "type" (reads_string new.type))
        |>.seq (describes_required "version" (reads_string new.version))
        |>.seq (describes_optional "description" "" (reads_string new.description))
        |>.seq (describes_optional "schema" Json.null (decodeJson_ofJson new.schema))
    refine reads_items describes (by simp) _ fun _ => ?_
    simpa [depth, depthItems, Nat.succ_le_iff] using shallow

theorem ListedIn.depth_lt (listed : new.ListedIn json)
    (decoded : reader.decode ⟨.text, nestingLimit⟩ (.ofJson json) = .ok read) :
    new.schema.depth < nestingLimit := by
  let field : Json.Field Json := ⟨"schema", decodeJson, some .null⟩
  cases listed with
  | @object members once name type version description schema =>
    rcases schema with given | ⟨-, null⟩
    · obtain ⟨front, back, rfl, -⟩ := List.lookup_eq_some_iff.mp given
      obtain ⟨fewer, part, levels, decodedSchema⟩ :=
        decoded_of_decodeRecord field new.schema decoded (by simp [field]) rfl
      rw [levels]
      exact Nat.lt_succ_of_le (depth_le_of_decodeJson new.schema fewer decodedSchema)
    · rw [null]
      decide
  | array =>
    obtain ⟨fewer, part, levels, decodedSchema⟩ :=
      decoded_of_decodeItems 4 field new.schema decoded rfl rfl
    rw [levels]
    exact Nat.lt_succ_of_le (depth_le_of_decodeJson new.schema fewer decodedSchema)

theorem ListedIn.floatFree (listed : new.ListedIn json) (spelled : Spells json text) :
    new.schema.FloatFree := by
  cases listed with
  | object once name type version description schema =>
    rcases schema with given | ⟨-, null⟩
    · obtain ⟨front, back, rfl, -⟩ := List.lookup_eq_some_iff.mp given
      have floatFree : FloatFreeMembers (front ++ ("schema", new.schema) :: back) :=
        spelled.floatFree
      exact floatFree.of_mem List.mem_append_cons_self
    · rw [null]
      trivial
  | array => simpa [FloatFree, FloatFreeItems] using spelled.floatFree

theorem WrittenAs.floatFree (written : new.WrittenAs text) : new.schema.FloatFree := by
  cases written with
  | intro listed isSpaceBefore spelled isSpaceBehind => exact listed.floatFree spelled

/-- The text of a definition is read if its schema nests less deep than the text may, and then as
the definition with its schema in normal form. -/
theorem decode_iff (written : new.WrittenAs text) :
    Json.decode reader.decode text = .ok read ↔
      new.schema.depth < nestingLimit ∧ read = new.normal := by
  cases written with
  | intro listed isSpaceBefore spelled isSpaceBehind =>
    rw [decode_eq_of_spells _ isSpaceBefore spelled isSpaceBehind]
    refine ⟨fun decoded => ?_, fun ⟨shallow, same⟩ => same ▸ listed.read_eq shallow⟩
    have shallow := listed.depth_lt decoded
    exact ⟨shallow, Except.ok.inj (decoded.symm.trans (listed.read_eq shallow))⟩

end Reading

/-- Definitions that agree in everything but their schemas have the same digested line exactly if
the schemas are equal. When such definitions are read from texts, which succeeds unless a schema
nests too deep, their lines are the same exactly if the schemas in the texts have the same meaning,
and then their fingerprints are. -/
theorem digestInput_determines_schema :
    (∀ first second : NewReceiver, first.AgreesButSchema second →
      first.schema.FloatFree → second.schema.FloatFree →
      (first.seed.digestInput = second.seed.digestInput ↔ first.schema = second.schema)) ∧
    (∀ (new : NewReceiver) (text : List UInt8), new.WrittenAs text →
      ((∃ read, Json.decode reader.decode text = .ok read) ↔ new.schema.depth < nestingLimit)) ∧
    ∀ (first second : NewReceiver) (text other : List UInt8) (read readOther : NewReceiver),
      first.AgreesButSchema second → first.WrittenAs text → second.WrittenAs other →
      Json.decode reader.decode text = .ok read →
      Json.decode reader.decode other = .ok readOther →
      (read.seed.digestInput = readOther.seed.digestInput ↔
        SameMeaning first.schema second.schema) ∧
      (SameMeaning first.schema second.schema →
        read.seed.fingerprint = readOther.seed.fingerprint) := by
  refine ⟨fun first second agree => digestInput_eq_iff_schema agree, ?_, ?_⟩
  · intro new text written
    refine ⟨fun ⟨read, decoded⟩ => ((decode_iff written).mp decoded).1, fun shallow => ?_⟩
    exact ⟨new.normal, (decode_iff written).mpr ⟨shallow, rfl⟩⟩
  · intro first second text other read readOther agree written writtenOther decoded decodedOther
    obtain ⟨-, rfl⟩ := (decode_iff written).mp decoded
    obtain ⟨-, rfl⟩ := (decode_iff writtenOther).mp decodedOther
    have agreeNormal : first.normal.AgreesButSchema second.normal :=
      ⟨agree.name, agree.type, agree.version, agree.description⟩
    have sameLine : first.normal.seed.digestInput = second.normal.seed.digestInput ↔
        SameMeaning first.schema second.schema :=
      (digestInput_eq_iff_schema agreeNormal written.floatFree.normal
        writtenOther.floatFree.normal).trans sameMeaning_iff.symm
    refine ⟨sameLine, fun sameMeaning => ?_⟩
    rw [FingerprintSeed.fingerprint, FingerprintSeed.fingerprint, sameLine.mpr sameMeaning]

/-- A definition and the same with its schema written another way. -/
def plainDefinition : NewReceiver :=
  ⟨"unit", "test", "1", "", .object [("a", .number (.integer 1)), ("b", .array [])]⟩

def respelledDefinition : NewReceiver :=
  { plainDefinition with
    schema := .object [("b", .array []), ("a", .null), ("a", .number (.integer 1))] }

/-- The members of the other one, without its description and with a member that no field asks
for. -/
def respelledMembers : List (String × Json) :=
  [("schema", respelledDefinition.schema), ("note", .null), ("version", .string "1"),
    ("type", .string "test"), ("name", .string "unit")]

theorem plainDefinition_written :
    plainDefinition.WrittenAs (Text.bytes plainDefinition.toJson.compact) := by
  have floatFree : plainDefinition.toJson.FloatFree := by
    simp [plainDefinition, toJson, FloatFree, FloatFreeItems, FloatFreeMembers]
  have written := WrittenAs.intro (.object (by decide) rfl rfl rfl (.inl rfl) (.inl rfl)) isSpace_nil
    (spells_compact floatFree) isSpace_nil
  rwa [Text.encode_nil, List.nil_append, List.append_nil] at written

theorem respelledDefinition_written :
    respelledDefinition.WrittenAs (Text.bytes (Json.object respelledMembers).indented) := by
  have floatFree : (Json.object respelledMembers).FloatFree := by
    simp [respelledMembers, respelledDefinition, FloatFree, FloatFreeItems, FloatFreeMembers]
  have written := WrittenAs.intro (.object (by decide) rfl rfl rfl (.inr ⟨rfl, rfl⟩) (.inl rfl)) isSpace_nil
    (spells_indented floatFree) isSpace_nil
  rwa [Text.encode_nil, List.nil_append, List.append_nil] at written

theorem respelledDefinition_sameMeaning :
    SameMeaning plainDefinition.schema respelledDefinition.schema :=
  ((SameMeaning.overwritten [("b", .array [])] .null (by decide)).trans
    (.swapped [] [] (by decide))).symm

/-- Both ways of writing the schema give one fingerprint, and another schema gives another line. -/
theorem respelledDefinition_keeps_fingerprint :
    (∃ read readOther : NewReceiver,
      Json.decode reader.decode (Text.bytes plainDefinition.toJson.compact) = .ok read ∧
      Json.decode reader.decode (Text.bytes (Json.object respelledMembers).indented) =
        .ok readOther ∧
      read.seed.fingerprint = readOther.seed.fingerprint) ∧
    plainDefinition.seed.digestInput ≠ { plainDefinition with schema := .null }.seed.digestInput := by
  obtain ⟨sameLine, isRead, samePrint⟩ := digestInput_determines_schema
  obtain ⟨read, decoded⟩ := (isRead _ _ plainDefinition_written).mpr (by decide)
  obtain ⟨readOther, decodedOther⟩ := (isRead _ _ respelledDefinition_written).mpr (by decide)
  have agree : plainDefinition.AgreesButSchema respelledDefinition := ⟨rfl, rfl, rfl, rfl⟩
  obtain ⟨-, same⟩ := samePrint _ _ _ _ read readOther agree plainDefinition_written
    respelledDefinition_written decoded decodedOther
  refine ⟨⟨read, readOther, decoded, decodedOther, same respelledDefinition_sameMeaning⟩, ?_⟩
  have differ := sameLine plainDefinition { plainDefinition with schema := .null }
    ⟨rfl, rfl, rfl, rfl⟩ (by simp [plainDefinition, FloatFree, FloatFreeItems, FloatFreeMembers])
    trivial
  exact fun sameInput => nomatch differ.mp sameInput

end EventCorrelation.NewReceiver
