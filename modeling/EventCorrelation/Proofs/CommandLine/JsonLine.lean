import EventCorrelation.CommandLine.RecordLine
import EventCorrelation.Proofs.Json.Printing
import EventCorrelation.Proofs.Wire.Legible

/-!
# Messages shown as JSON

The line that a message is shown as in JSON stands for the message: it is one line, it is read as the
message that was shown, and a record that carries the line is shown as the line.
-/

namespace EventCorrelation.Record

open Json

variable {record : Record} {message : Message}

theorem render_json (decoded : record.decode Message.reader.decode = .ok message)
    (colored : Bool) : record.render colored .json = message.compact := by
  have carries : record.message? = some message := by rw [message?, decoded]
  rw [render, carries]

/-- Whatever text a message without floating point numbers comes from, the line that it is shown as
holds no control character, reads as the message and is shown as itself. -/
theorem json_line_readBack (decoded : record.decode Message.reader.decode = .ok message)
    (without : message.data.WithoutFloats) (colored : Bool) :
    (∀ symbol ∈ (record.render colored .json).toList, 0x20 ≤ symbol.toNat) ∧
      Message.ofBytes (Text.bytes (record.render colored .json)) = .ok message ∧
      ∀ (again : Bool) (other : Record),
        other.payload = some (Text.bytes (record.render colored .json)) →
        other.render again .json = record.render colored .json := by
  have readBack := Message.readBack_of_ofBytes decoded without
  rw [render_json decoded]
  refine ⟨printable_compact message.toJson, readBack, fun again other carries => ?_⟩
  have decodedAgain : other.decode Message.reader.decode = .ok message := by
    rw [decode, carries]
    exact readBack
  exact render_json decodedAgain again

/-- A message as an array, with spaces and escapes, a member that nobody knows, and a payload whose
members are out of order and overwritten. -/
def strangePayload : String :=
  " [true, \"\", \"1.0\", \"build\\u000ayes\", \"ci\", \"v1\", \"build\", \"1\", \"\", \"\", \"\",\n" ++
    "  \x7b\"later\": \x7b\x7d, \"events\": [\x7b\"success\": true, \"id\": " ++
    "\"evt_7ZZZZZZZZZZZZZZZZZZZZZZZZZ\", \"name\": \"build\", \"version\": \"1\", " ++
    "\"release\": \"\", \"platform_id\": \"\", \"package\": \"\", \"description\": \"\", " ++
    "\"payload\": \x7b\"z\": 1, \"a\": [18446744073709551615], \"z\": -2\x7d, " ++
    "\"event_receiver_id\": \"rcv_00000000000000000000000000\", " ++
    "\"created_at\": \"2016-12-31t23:59:60.5z\"\x7d]\x7d] "

def strangeMessage : Message :=
  { sampleMessage with
    id := "", type := "build\nyes"
    source := "ci"
    data := { MessageData.empty with
      events := [{ sampleEvent with
        payload := .object [("a", .array [.number (.integer 18446744073709551615)]),
          ("z", .number (.integer (-2)))] }] } }

theorem strangeMessage_withoutFloats : strangeMessage.data.WithoutFloats where
  events event isEvent := by
    rw [List.mem_singleton.mp isEvent]
    simp [numbers, numbersOfItems, numbersOfMembers, JsonNumber.IsInteger]
  receivers := nofun

theorem strange_line_readBack :
    let record : Record := ⟨"quorum.events", 0, 7, none, some (Text.bytes strangePayload), none⟩
    let line := record.render true .json
    let again : Record := { record with payload := some (Text.bytes line) }
    (∀ symbol ∈ line.toList, 0x20 ≤ symbol.toNat) ∧
      Message.ofBytes (Text.bytes line) = .ok strangeMessage ∧
      again.render false .json = line := by
  intro record line again
  have decoded : record.decode Message.reader.decode = .ok strangeMessage := by decide +kernel
  obtain ⟨printable, readBack, same⟩ :=
    json_line_readBack decoded strangeMessage_withoutFloats true
  exact ⟨printable, readBack, same false again rfl⟩

end EventCorrelation.Record
