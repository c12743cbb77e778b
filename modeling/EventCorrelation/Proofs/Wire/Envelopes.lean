import EventCorrelation.Json.Members
import EventCorrelation.Proofs.Wire.Commands

/-!
# Envelopes of commands

A command may come with its kind in front of its data, with its data in front of its kind, or as an
array of the two. Where the data come first they are read twice, once to be kept and once from what
was kept, when their kind is known. All three ways give the same command.
-/

namespace EventCorrelation.IntakeCommand

open Json

/-- The ways to put a command into an envelope. -/
inductive Envelope where
  | kindFirst
  | dataFirst
  | pair
deriving DecidableEq

namespace Envelope

/-- A command in an envelope. -/
def json (command : IntakeCommand) : Envelope → Json
  | .kindFirst => .object [("kind", .string command.kind.text), ("data", command.dataJson)]
  | .dataFirst => .object [("data", command.dataJson), ("kind", .string command.kind.text)]
  | .pair => .array [.string command.kind.text, command.dataJson]

/-- The text that stands for the kind in an envelope: its member with that name, or its first
item. -/
def kindText? : Json → Option String
  | .array items => items.head?.bind toText?
  | json => json.text? "kind"

end Envelope

variable {command : IntakeCommand}

theorem reads_dataFirst (exact : command.content.Exact) :
    Reads IntakeCommand.decode (Envelope.dataFirst.json command) command := by
  intro reading admits
  obtain ⟨inner, entered, innerAdmits⟩ := enter_of_admits admits
  have kept : decodeJson inner (.ofJson command.dataJson) = .ok command.dataJson.normal :=
    decodeJson_ofJson _ inner (innerAdmits.mono (Nat.le_max_left ..))
  have bringsData : bringMember inner .nothing (.ok "data", .ofJson command.dataJson) =
      .ok (.data (.ofJson command.dataJson)) := by
    simp only [bringMember, bringData, kept, mapError_ok, bind, Except.bind]
    rfl
  -- what was kept is read without counting levels
  have admitsKept : Reading.Admits { inner with origin := .kept } command.dataJson.depth := by
    intro isText
    cases isText
  have decoded : decodeData command.kind { inner with origin := .kept } (.ofJson command.dataJson) =
      .ok command :=
    decodeData_ofJson exact admitsKept
  have bringsKind : bringMember inner (.data (.ofJson command.dataJson))
      (.ok "kind", .string (.ok command.kind.text)) = .ok (.command command) := by
    simp only [bringMember, bringKind, decodeKind_text, decoded, mapError_ok, bind, Except.bind,
      if_true]
    rfl
  rw [Envelope.json, Tree.ofJson, IntakeCommand.decode, entered]
  simp only [Tree.ofMembers, Tree.ofJson, bind, Except.bind, List.foldlM_cons, bringsData,
    bringsKind]
  rfl

theorem decodeKindName_text (reading : Reading) (kind : Kind) :
    decodeKindName reading (.string (.ok kind.text)) = .ok kind := by
  cases kind <;> rfl

theorem reads_pair (exact : command.content.Exact) :
    Reads IntakeCommand.decode (Envelope.pair.json command) command := by
  intro reading admits
  obtain ⟨inner, entered, innerAdmits⟩ := enter_of_admits admits
  have decoded : decodeData command.kind inner (.ofJson command.dataJson) = .ok command :=
    decodeData_ofJson exact (innerAdmits.mono (by simp only [depthItems]; omega))
  rw [Envelope.json, Tree.ofJson, IntakeCommand.decode, entered]
  simp only [Tree.ofItems, Tree.ofJson, bind, Except.bind, decodeKindName_text, decoded]
  rfl

theorem Envelope.reads (exact : command.content.Exact) (envelope : Envelope) :
    Reads IntakeCommand.decode (envelope.json command) command := by
  cases envelope with
  | kindFirst =>
    have reads := IntakeCommand.reads exact
    rwa [toJson_eq] at reads
  | dataFirst => exact reads_dataFirst exact
  | pair => exact reads_pair exact

theorem Envelope.floatFree (exact : command.content.Exact) (envelope : Envelope) :
    (envelope.json command).FloatFree := by
  have whole := IntakeCommand.floatFree exact
  rw [toJson_eq] at whole
  obtain ⟨kind, data, -⟩ := whole
  cases envelope with
  | kindFirst => exact ⟨kind, data, trivial⟩
  | dataFirst => exact ⟨data, kind, trivial⟩
  | pair => exact ⟨kind, data, trivial⟩

/-- No envelope puts more brackets around a command than another. -/
theorem Envelope.depth_json (command : IntakeCommand) (envelope : Envelope) :
    (envelope.json command).depth = command.toJson.depth := by
  rw [toJson_eq]
  cases envelope <;> simp [json, depth, depthItems, depthMembers]

theorem Envelope.kindText?_json (command : IntakeCommand) (envelope : Envelope) :
    kindText? (envelope.json command) = some command.kind.text := by
  cases envelope <;> rfl

/-- A command without floating point numbers whose payload or schema nests no deeper than 125 levels
is read back from every text of each of its envelopes, the one in which it is written among them, and
its kind is the one that the text names. -/
theorem every_envelope_read_back (command : IntakeCommand) (exact : command.content.Exact)
    (shallow : command.content.depth ≤ 125) (envelope : Envelope) :
    Envelope.kindFirst.json command = command.toJson ∧
    (∃ decoded, ofBytes (Text.bytes (envelope.json command).compact) = .ok decoded ∧
      decoded = command ∧
      Envelope.kindText? (envelope.json command) = some decoded.kind.text) ∧
    ∀ before text behind, IsSpace before → Spells (envelope.json command) text → IsSpace behind →
      ofBytes (before ++ text ++ behind) = .ok command := by
  have reads := envelope.reads exact
  have limit : (envelope.json command).depth ≤ nestingLimit := by
    rw [envelope.depth_json]
    exact depth_toJson_le (Nat.add_le_add_right shallow 2)
  refine ⟨(toJson_eq command).symm, ⟨command, ?_, rfl, envelope.kindText?_json command⟩, ?_⟩
  · exact EventCorrelation.decode_compact reads (envelope.floatFree exact) limit
  · intro before text behind isSpaceBefore spelled isSpaceBehind
    exact decode_of_spells reads limit isSpaceBefore spelled isSpaceBehind

theorem sampleNewEvent_in_envelopes :
    let command := createEvent sampleNewEvent
    ofBytes (Text.bytes (Envelope.kindFirst.json command).compact) = .ok command ∧
      ofBytes (Text.bytes (Envelope.dataFirst.json command).compact) = .ok command ∧
      ofBytes (Text.bytes (Envelope.pair.json command).compact) = .ok command := by
  intro command
  have readBack (envelope : Envelope) :
      ofBytes (Text.bytes (envelope.json command).compact) = .ok command := by
    obtain ⟨-, ⟨decoded, read, rfl, -⟩, -⟩ :=
      every_envelope_read_back command samplePayload_exact (by decide) envelope
    exact read
  exact ⟨readBack .kindFirst, readBack .dataFirst, readBack .pair⟩

end EventCorrelation.IntakeCommand
