import EventCorrelation.CommandLine.Invocation
import EventCorrelation.Proofs.CommandLine.Options
import EventCorrelation.Proofs.Fingerprint.Digits
import EventCorrelation.Proofs.Group.Members
import EventCorrelation.Proofs.Json.Objects
import EventCorrelation.Proofs.Wire.RoundTrip
import EventCorrelation.Store.Memory

/-!
# Fingerprints on the command line

Whoever knows a definition computes its fingerprint with the program: it reads any seed from its
arguments and prints what a store gives a receiver of that definition. In JSON it prints the seed as
well, so that both can be read back.
-/

namespace EventCorrelation

open Json

/-- The seed that stands for a receiver on the command line: its type is the action, and the compact
text of its schema the only tag. -/
def NewReceiver.commandSeed (new : NewReceiver) : FingerprintSeed :=
  ⟨new.type, new.description, new.name, [new.schema.compact], new.version⟩

/-- The seed that stands for a group: its type is the action, and the texts of its members, each once
and where it first occurs, are the tags. -/
def NewGroup.commandSeed (new : NewGroup) : FingerprintSeed :=
  ⟨new.type, new.description, new.name, new.memberIds.eraseDups.map Identifier.text, new.version⟩

namespace FingerprintSeed

section Arguments

/-- The options that give a seed and a format. -/
def options (seed : FingerprintSeed) (format : OutputFormat) : List (String × String) :=
  [("action", seed.action), ("description", seed.description), ("name", seed.name)] ++
    seed.tags.map (fun tag => ("tag", tag)) ++ [("version", seed.version), ("format", format.name)]

/-- The words behind the name of the program. -/
def arguments (seed : FingerprintSeed) (format : OutputFormat) : List String :=
  "fingerprint" :: (seed.options format).map optionWord

theorem names_options (seed : FingerprintSeed) (format : OutputFormat) :
    (seed.options format).map (·.1) = ["action", "description", "name"] ++
      List.replicate seed.tags.length "tag" ++ ["version", "format"] := by
  simp [options, Function.comp_def, List.map_const']

theorem count_options (seed : FingerprintSeed) (format : OutputFormat) :
    ∀ name ∈ ["action", "description", "name", "version", "format"],
      ((seed.options format).map (·.1)).count name = 1 := by
  have fixed : ∀ name ∈ ["action", "description", "name", "version", "format"],
      ("tag" == name) = false ∧
        ["action", "description", "name"].count name + ["version", "format"].count name = 1 := by
    decide
  intro name isName
  obtain ⟨notTag, once⟩ := fixed name isName
  rw [names_options, List.count_append, List.count_append, List.count_replicate, notTag]
  exact once

theorem accepts_options (seed : FingerprintSeed) (format : OutputFormat) :
    ∀ option ∈ seed.options format, ∃ rule,
      Invocation.fingerprintRule.Accepts (seed.options format) option rule := by
  have known : ∀ name ∈ ["action", "description", "name", "version"], '=' ∉ name.toList ∧
      name ∈ ["action", "description", "name", "version", "format"] ∧
      Invocation.fingerprintRule.options.find? (·.name == name) =
        some (Invocation.valueOption name .single) := by
    decide
  have single (name value : String) (isName : name ∈ ["action", "description", "name", "version"]) :
      ∃ rule, Invocation.fingerprintRule.Accepts (seed.options format) (name, value) rule := by
    obtain ⟨plain, isOption, found⟩ := known name isName
    exact ⟨_, plain, found, rfl, rfl, .inr (count_options seed format name isOption)⟩
  intro option isOption
  simp only [options, List.mem_append, List.mem_cons, List.not_mem_nil, or_false,
    List.mem_map] at isOption
  rcases isOption with ((rfl | rfl | rfl) | ⟨tag, -, rfl⟩) | rfl | rfl
  · exact single _ _ (by decide)
  · exact single _ _ (by decide)
  · exact single _ _ (by decide)
  · have plain : '=' ∉ "tag".toList := by decide
    exact ⟨Invocation.valueOption "tag" .repeated, plain, rfl, rfl, rfl, .inl rfl⟩
  · exact single _ _ (by decide)
  · have plain : '=' ∉ "format".toList := by decide
    have allowed : (OutputFormat.all.map OutputFormat.name).contains format.name = true := by
      cases format <;> decide
    exact ⟨⟨"format", none, .single, OutputFormat.all.map OutputFormat.name⟩, plain, rfl, rfl,
      allowed, .inr (count_options seed format "format" (by decide))⟩

theorem readAll_options (seed : FingerprintSeed) (format : OutputFormat) :
    Arguments.readAll Invocation.fingerprintRule ((seed.options format).map optionWord) =
      .ok ⟨seed.options format, none, false⟩ := by
  refine Arguments.readAll_options rfl (accepts_options seed format) ?_
  rw [names_options]
  simp [Invocation.fingerprintRule]

theorem fingerprintSeed_options (seed : FingerprintSeed) (format : OutputFormat) :
    Invocation.fingerprintSeed ⟨seed.options format, none, false⟩ = seed := by
  simp [Invocation.fingerprintSeed, Arguments.value?, Arguments.values, options]

theorem ofName?_name (format : OutputFormat) : OutputFormat.ofName? format.name = some format := by
  cases format <;> rfl

theorem readCommand_options (environment : Environment) (seed : FingerprintSeed)
    (format : OutputFormat) :
    Invocation.readCommand environment "fingerprint" ((seed.options format).map optionWord) =
      .ok (⟨seed.options format, none, false⟩, .fingerprint seed) := by
  change (do
    let read ← Arguments.readAll Invocation.fingerprintRule ((seed.options format).map optionWord)
    return (read, Command.fingerprint (Invocation.fingerprintSeed read))) = _
  rw [readAll_options]
  change Except.ok (_, Command.fingerprint (Invocation.fingerprintSeed _)) = _
  rw [fingerprintSeed_options]

theorem parse_arguments (environment : Environment) (seed : FingerprintSeed)
    (format : OutputFormat) :
    Invocation.parse environment (seed.arguments format) =
      .ok ⟨format, .fingerprint seed⟩ := by
  have given : (Arguments.mk (seed.options format) none false).value? "format" =
      some format.name := by
    simp [Arguments.value?, Arguments.values, options]
  have scanned : Arguments.scan Invocation.rootRule .empty (seed.arguments format) =
      .ok (.empty, some ("fingerprint", (seed.options format).map optionWord)) := rfl
  rw [Invocation.parse, scanned]
  change (do
    let next ← Invocation.readCommand environment "fingerprint"
      ((seed.options format).map optionWord)
    let root ← Arguments.empty.resolve
    let format := ((next.1.value? "format").or (root.value? "format")).bind OutputFormat.ofName?
    return Invocation.mk (format.getD .text) next.2) = _
  rw [readCommand_options]
  change Except.ok (Invocation.mk ((((Arguments.mk (seed.options format) none false).value?
    "format").or _).bind OutputFormat.ofName? |>.getD .text) (.fingerprint seed)) = _
  rw [given, Option.some_or, Option.bind_some, ofName?_name]
  rfl

end Arguments

section Annotated

theorem floatFree_annotated (seed : FingerprintSeed) : seed.toAnnotatedJson.FloatFree := by
  have members : FloatFreeMembers seed.members := seed.floatFree
  exact ⟨trivial, members⟩

theorem depth_annotated (seed : FingerprintSeed) : seed.toAnnotatedJson.depth = seed.toJson.depth := by
  change max 0 (depthMembers seed.members) + 1 = depthMembers seed.members + 1
  rw [Nat.zero_max]

theorem depth_annotated_le (seed : FingerprintSeed) : seed.toAnnotatedJson.depth ≤ nestingLimit := by
  rw [depth_annotated]
  exact seed.depth_toJson

/-- The fingerprint in front does not keep the seed from being read. -/
theorem reads_annotated (seed : FingerprintSeed) :
    Reads reader.decode seed.toAnnotatedJson seed := by
  intro reading admits
  obtain ⟨inner, entered, innerAdmits⟩ := enter_of_admits admits
  have tags : decodeList decodeString inner (.ofJson (.array (seed.tags.map .string))) =
      .ok seed.tags := by
    refine reads_list (fun tag _ => reads_string tag) inner (innerAdmits.mono ?_)
    simp [FingerprintSeed.members, depthMembers, depth]
  have once : ∀ name ∈ ["action", "description", "name", "tags", "version"],
      NamedOnce name (("fingerprint", .string seed.fingerprint) :: seed.members) := by
    change ∀ name ∈ _, ["fingerprint", "action", "description", "name", "tags", "version"].count
      name ≤ 1
    decide
  have finds : reader.shape.Finds inner (("fingerprint", .string seed.fingerprint) :: seed.members)
      seed :=
    (finds_field ⟨"action", decodeString, none⟩ rfl rfl (once _ (by decide))).map FingerprintSeed.mk
      |>.seq (finds_field ⟨"description", decodeString, none⟩ rfl rfl (once _ (by decide)))
      |>.seq (finds_field ⟨"name", decodeString, none⟩ rfl rfl (once _ (by decide)))
      |>.seq (finds_field ⟨"tags", decodeList decodeString, some []⟩ tags rfl (once _ (by decide)))
      |>.seq (finds_field ⟨"version", decodeString, none⟩ rfl rfl (once _ (by decide)))
  exact decode_object entered finds

theorem member?_annotated (seed : FingerprintSeed) :
    seed.toAnnotatedJson.normal.member? "fingerprint" = some (.string seed.fingerprint) := by
  have once : "fingerprint" ∉ (normalMembers seed.members).map (·.1) := by
    rw [names_normalMembers]
    change "fingerprint" ∉ ["action", "description", "name", "tags", "version"]
    decide
  exact member?_sortMembers once []

end Annotated

theorem decode_annotated (seed : FingerprintSeed) :
    Json.decode reader.decode (Text.bytes (seed.render .json)) = .ok seed ∧
      ∃ value, Json.decode decodeJson (Text.bytes (seed.render .json)) = .ok value ∧
        value.member? "fingerprint" = some (.string (seed.render .text)) := by
  have floatFree := seed.floatFree_annotated
  have shallow := seed.depth_annotated_le
  exact ⟨decode_compact seed.reads_annotated floatFree shallow, seed.toAnnotatedJson.normal,
    decode_compact (decodeJson_ofJson _) floatFree shallow, seed.member?_annotated⟩

/-- Given any seed in its arguments, the program prints the fingerprint of the seed in the format
that is asked for. The fingerprint is the one that a store gives a receiver whose definition the seed
stands for, or that of the seed of a group, and has 64 small hexadecimal digits. What is printed in
JSON is read as the seed again, and as a value with the fingerprint in a member. -/
theorem printed_as_stored :
    (∀ (environment : Environment) (seed : FingerprintSeed) (format : OutputFormat),
      ∃ invocation, Invocation.parse environment (seed.arguments format) = .ok invocation ∧
        ∀ (colored : Bool) (process : String) (link : Except BusFault (List Fetch)),
          invocation.run colored environment process link =
            ⟨0, seed.render format ++ "\n", "", none⟩) ∧
    (∀ (new : NewReceiver) (id : ReceiverId) (now : Timestamp) (store : MemoryStore),
      ∃ receiver, store.createReceiver id now new =
          (.ok receiver, { store with receivers := store.receivers ++ [receiver] }) ∧
        new.commandSeed.render .text = receiver.fingerprint) ∧
    (∀ new : NewGroup, new.commandSeed.render .text = new.seed.fingerprint) ∧
    ∀ seed : FingerprintSeed,
      (seed.render .text).toList.length = 64 ∧
      (∀ symbol ∈ (seed.render .text).toList, symbol ∈ "0123456789abcdef".toList) ∧
      Json.decode reader.decode (Text.bytes (seed.render .json)) = .ok seed ∧
      ∃ value, Json.decode decodeJson (Text.bytes (seed.render .json)) = .ok value ∧
        value.member? "fingerprint" = some (.string (seed.render .text)) := by
  refine ⟨fun environment seed format => ?_, fun new id now store => ?_, fun new => ?_,
    fun seed => ?_⟩
  · exact ⟨_, parse_arguments environment seed format, fun _ _ _ => rfl⟩
  · exact ⟨new.toReceiver id now, rfl, rfl⟩
  · rw [NewGroup.commandSeed, ← NewGroup.members_eq_eraseDups]
    rfl
  · exact ⟨seed.length_fingerprint, fun _ => mem_hexDigits_of_mem_fingerprint,
      seed.decode_annotated⟩

/-- A seed whose name looks like an option and whose tags hold what separates words. -/
def awkwardSeed : FingerprintSeed := ⟨"gate", "", "--name=x", ["a b", "", "--"], "1"⟩

theorem awkwardSeed_printed :
    (∃ invocation, Invocation.parse .empty ["fingerprint", "--action=gate", "--description=",
        "--name=--name=x", "--tag=a b", "--tag=", "--tag=--", "--version=1", "--format=json"] =
        .ok invocation ∧
      (invocation.run false .empty "process" (.ok [])).output = awkwardSeed.render .json ++ "\n") ∧
    (∀ symbol ∈ awkwardSeed.fingerprint.toList, symbol ∈ "0123456789abcdef".toList) ∧
    Json.decode reader.decode (Text.bytes (awkwardSeed.render .json)) = .ok awkwardSeed := by
  obtain ⟨printed, -, -, shown⟩ := printed_as_stored
  obtain ⟨invocation, parsed, prints⟩ := printed .empty awkwardSeed .json
  obtain ⟨-, digits, decoded, -⟩ := shown awkwardSeed
  refine ⟨⟨invocation, parsed, ?_⟩, digits, decoded⟩
  rw [prints]

end FingerprintSeed

end EventCorrelation
