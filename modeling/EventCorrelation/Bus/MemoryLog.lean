import EventCorrelation.Bus.Transport

/-!
# Logs in memory

A transport that keeps the published records. Every topic has one partition, whose offsets count
from zero. It can be told to refuse every record.
-/

namespace EventCorrelation

structure PublishedRecord where
  topic : String
  key : Option String
  payload : List UInt8
deriving DecidableEq

/-- The record as a JSON value; a payload that is no text is left out. -/
def PublishedRecord.toJson (record : PublishedRecord) : Json :=
  .object [("topic", record.topic), ("key", record.key),
    ("payload", Text.ofBytes? record.payload)]

/-- The records in the order of publication, and the next offset of every topic that has one. -/
structure MemoryLog where
  records : List PublishedRecord
  nextOffsets : List (String × Nat)
  refusal : Option String
  isOpen : Bool

namespace MemoryLog

/-- A log without records, which refuses all with the reason, if there is one. -/
def empty (refusal : Option String) : MemoryLog := ⟨[], [], refusal, true⟩

/-- The records of a topic in the order of publication. -/
def recordsOf (log : MemoryLog) (topic : String) : List PublishedRecord :=
  log.records.filter (·.topic == topic)

/-- The next offset of a topic. -/
def nextOffset (offsets : List (String × Nat)) (topic : String) : Nat :=
  (offsets.lookup topic).getD 0

/-- Sets the next offset of a topic. -/
def setOffset (topic : String) (offset : Nat) : List (String × Nat) → List (String × Nat)
  | [] => [(topic, offset)]
  | (other, value) :: rest =>
    if other = topic then (topic, offset) :: rest
    else (other, value) :: setOffset topic offset rest

/-- Appends a record. A refused record is not encoded; one that cannot be encoded takes no
offset. -/
def append (record : OutboundRecord) (log : MemoryLog) :
    Except BusFault Delivered × MemoryLog :=
  match log.refusal with
  | some reason => (.error (.publishing record.topic reason), log)
  | none => match record.value.encode with
    | (.error fault, _) => (.error fault, log)
    | (.ok payload, _) =>
      let offset := nextOffset log.nextOffsets record.topic
      (.ok ⟨record.topic, 0, offset⟩,
        { log with
          records := log.records ++ [⟨record.topic, record.key, payload⟩]
          nextOffsets := setOffset record.topic (offset + 1) log.nextOffsets })

/-- A log as a transport. -/
def transport : Transport MemoryLog where
  enqueue record log :=
    let (outcome, log) := log.append record
    (if log.isOpen then some (.ofOutcome record.topic outcome) else none, log)
  deliver record log := log.append record
  close log := (.ok (), { log with isOpen := false })
  mayReport log := log.isOpen

end MemoryLog

end EventCorrelation
