import EventCorrelation.Intake.Command
import EventCorrelation.Proofs.Json.Nesting
import EventCorrelation.Proofs.Wire.RoundTrip

/-!
# Commands on the wire

A command is read back from its envelope, and whatever envelope a command is read from, its payload
or schema has the members of its objects sorted.
-/

namespace EventCorrelation

open Json

/-- The payload or the schema that a command brings. -/
def IntakeCommand.content : IntakeCommand → Json
  | .createEvent new => new.payload
  | .createReceiver new => new.schema
  | .createGroup _ => .null

section Sorting

variable {reading : Reading} {tree : Tree}

theorem NewEvent.sorted_of_decode {new : NewEvent}
    (decoded : reader.decode reading tree = .ok new) : new.payload.Sorted := by
  have makes : reader.shape.Makes fun new => new.payload.Sorted := by
    refine .seq ?_ (makes_any (required "event_receiver_id" (decodeIdentifier .receiver)))
    refine .seq ?_ (makes_any (required "success" decodeBool))
    refine .seq ?_ (makes_sorted "payload")
    refine .seq ?_ (makes_any (Json.optional "description" decodeString ""))
    refine .seq ?_ (makes_any (required "package" decodeString))
    refine .seq ?_ (makes_any (required "platform_id" decodeString))
    refine .seq ?_ (makes_any (required "release" decodeString))
    refine .seq ?_ (makes_any (required "version" decodeString))
    refine (makes_any (required "name" decodeString)).map ?_
    intro name _ version _ release _ platformId _ package _ description _ payload sorted
    exact fun _ _ _ _ => sorted
  exact makes.decode decoded

theorem NewReceiver.sorted_of_decode {new : NewReceiver}
    (decoded : reader.decode reading tree = .ok new) : new.schema.Sorted := by
  have makes : reader.shape.Makes fun new => new.schema.Sorted := by
    refine .seq ?_ (makes_sorted "schema")
    refine .seq ?_ (makes_any (Json.optional "description" decodeString ""))
    refine .seq ?_ (makes_any (required "version" decodeString))
    refine .seq ?_ (makes_any (required "type" decodeString))
    refine (makes_any (required "name" decodeString)).map ?_
    intro name _ type _ version _ description _ schema sorted
    exact sorted
  exact makes.decode decoded

namespace IntakeCommand

variable {kind : Kind} {command : IntakeCommand}

theorem sorted_of_decodeData (decoded : decodeData kind reading tree = .ok command) :
    command.content.Sorted := by
  cases kind with
  | event =>
    obtain ⟨new, decodedNew, rfl⟩ := exists_of_map decoded
    exact NewEvent.sorted_of_decode decodedNew
  | receiver =>
    obtain ⟨new, decodedNew, rfl⟩ := exists_of_map decoded
    exact NewReceiver.sorted_of_decode decodedNew
  | group =>
    obtain ⟨new, -, rfl⟩ := exists_of_map decoded
    trivial

/-- A command that is known already has a sorted content. -/
def Progress.Sorted : Progress → Prop
  | .command whole => whole.content.Sorted
  | _ => True

theorem Progress.Sorted.bringMember {progress next : Progress}
    {member : Except Fault String × Tree} (sorted : progress.Sorted)
    (brings : IntakeCommand.bringMember reading progress member = .ok next) : next.Sorted := by
  unfold IntakeCommand.bringMember at brings
  obtain ⟨name, -, brings⟩ := exists_of_bind brings
  split at brings
  · cases progress with
    | nothing => obtain ⟨_, -, rfl⟩ := exists_of_map brings; trivial
    | data tree =>
      obtain ⟨kind, -, brings⟩ := exists_of_bind brings
      obtain ⟨whole, decoded, rfl⟩ := exists_of_map brings
      exact sorted_of_decodeData decoded
    | kind | command => cases brings
  · split at brings
    · cases progress with
      | nothing => obtain ⟨_, -, rfl⟩ := exists_of_map brings; trivial
      | kind kind =>
        obtain ⟨whole, decoded, rfl⟩ := exists_of_map brings
        exact sorted_of_decodeData decoded
      | data | command => cases brings
    · obtain ⟨_, -, brings⟩ := exists_of_bind brings
      cases brings
      exact sorted

theorem Progress.Sorted.bringAll {progress last : Progress}
    {members : List (Except Fault String × Tree)} (sorted : progress.Sorted)
    (brings : members.foldlM (IntakeCommand.bringMember reading) progress = .ok last) :
    last.Sorted := by
  induction members generalizing progress with
  | nil => cases brings; exact sorted
  | cons member rest ih =>
    rw [List.foldlM_cons] at brings
    obtain ⟨next, bringsFirst, brings⟩ := exists_of_bind brings
    exact ih (sorted.bringMember bringsFirst) brings

/-- Whatever envelope a command is read from, its content is sorted. -/
theorem sorted_of_decode (decoded : IntakeCommand.decode reading tree = .ok command) :
    command.content.Sorted := by
  unfold IntakeCommand.decode at decoded
  split at decoded
  · obtain ⟨inner, -, decoded⟩ := exists_of_bind decoded
    obtain ⟨progress, brings, decoded⟩ := exists_of_bind decoded
    obtain ⟨_, -, finished⟩ := exists_of_bind decoded
    have begun : Progress.nothing.Sorted := trivial
    have sorted : progress.Sorted := begun.bringAll brings
    cases progress with
    | command whole => cases finished; exact sorted
    | nothing | kind | data => cases finished
  · obtain ⟨inner, -, decoded⟩ := exists_of_bind decoded
    split at decoded
    · obtain ⟨_, -, decoded⟩ := exists_of_bind decoded
      cases decoded
    · obtain ⟨_, -, decoded⟩ := exists_of_bind decoded
      obtain ⟨_, -, decoded⟩ := exists_of_bind decoded
      cases decoded
    · obtain ⟨kind, -, decoded⟩ := exists_of_bind decoded
      obtain ⟨whole, decodedWhole, decoded⟩ := exists_of_bind decoded
      have sorted := sorted_of_decodeData decodedWhole
      split at decoded
      · cases decoded
      · obtain ⟨_, -, decoded⟩ := exists_of_bind decoded
        cases decoded
        exact sorted
  · cases decoded

end IntakeCommand

end Sorting

namespace IntakeCommand

/-- The data of a command in its envelope. -/
def dataJson : IntakeCommand → Json
  | .createEvent new => new.toJson
  | .createReceiver new => new.toJson
  | .createGroup new => new.toJson

theorem toJson_eq (command : IntakeCommand) :
    command.toJson = .object [("kind", .string command.kind.text), ("data", command.dataJson)] := by
  cases command <;> rfl

theorem decodeKind_text (reading : Reading) (kind : Kind) :
    decodeKind reading (.string (.ok kind.text)) = .ok kind := by
  unfold decodeKind
  split <;> cases kind <;> rfl

theorem decodeData_ofJson {command : IntakeCommand} (exact : command.content.Exact)
    {reading : Reading} (admits : reading.Admits command.dataJson.depth) :
    decodeData command.kind reading (.ofJson command.dataJson) = .ok command := by
  cases command with
  | createEvent new =>
    have decoded := NewEvent.reads exact reading admits
    simp only [decodeData, kind, dataJson, decoded]
    rfl
  | createReceiver new =>
    have decoded := NewReceiver.reads exact reading admits
    simp only [decodeData, kind, dataJson, decoded]
    rfl
  | createGroup new =>
    have decoded := NewGroup.reads new reading admits
    simp only [decodeData, kind, dataJson, decoded]
    rfl

/-- A command is read back from its envelope. -/
theorem reads {command : IntakeCommand} (exact : command.content.Exact) :
    Reads IntakeCommand.decode command.toJson command := by
  rw [toJson_eq]
  intro reading admits
  obtain ⟨inner, entered, innerAdmits⟩ := enter_of_admits admits
  have bringsKind : bringMember inner .nothing (.ok "kind", .string (.ok command.kind.text)) =
      .ok (.kind command.kind) := by
    simp only [bringMember, bringKind, decodeKind_text, mapError_ok, bind, Except.bind, if_true]
    rfl
  have bringsData : bringMember inner (.kind command.kind) (.ok "data", .ofJson command.dataJson) =
      .ok (.command command) := by
    have decoded := decodeData_ofJson exact (innerAdmits.mono (by simp only [depthMembers]; omega))
    simp only [bringMember, bringData, decoded, mapError_ok, bind, Except.bind]
    rfl
  rw [Tree.ofJson, IntakeCommand.decode, entered]
  simp only [Tree.ofMembers, Tree.ofJson, bind, Except.bind, List.foldlM_cons, bringsKind,
    bringsData]
  rfl

theorem floatFree {command : IntakeCommand} (exact : command.content.Exact) :
    command.toJson.FloatFree := by
  cases command with
  | createEvent new => exact ⟨trivial, NewEvent.floatFree exact, trivial⟩
  | createReceiver new => exact ⟨trivial, NewReceiver.floatFree exact, trivial⟩
  | createGroup new => exact ⟨trivial, new.floatFree, trivial⟩

/-- An envelope puts two brackets around its content. -/
theorem depth_toJson_le {command : IntakeCommand}
    (shallow : command.content.depth + 2 ≤ nestingLimit) : command.toJson.depth ≤ nestingLimit := by
  cases command with
  | createEvent new | createReceiver new =>
    rw [content] at shallow
    simp only [toJson, NewEvent.toJson, NewReceiver.toJson, Identifier.toJson, depth,
      depthMembers, nestingLimit] at shallow ⊢
    omega
  | createGroup new =>
    have members := depth_identifiers new.memberIds
    simp only [toJson, NewGroup.toJson, depth, depthMembers, nestingLimit]
    omega

/-- A command whose content leaves its envelope within the limit is read back from its text. -/
theorem decode_compact {command : IntakeCommand} (exact : command.content.Exact)
    (shallow : command.content.depth + 2 ≤ nestingLimit) :
    Json.decode IntakeCommand.decode (Text.bytes command.toJson.compact) = .ok command :=
  EventCorrelation.decode_compact (reads exact) (floatFree exact) (depth_toJson_le shallow)

end IntakeCommand

end EventCorrelation
