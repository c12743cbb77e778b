import EventCorrelation.Service.History
import Mathlib.Data.List.Forall2

/-!
# Publishing to a healthy log

An open producer over a log that takes every record appends exactly one record for everything that
is published, with the key and the text that belong to it.
-/

namespace EventCorrelation

/-- The producer is open, and its log takes every record. -/
structure Producer.Healthy (producer : Producer MemoryLog) : Prop where
  transport : producer.transport = some MemoryLog.transport
  isOpen : producer.isClosed = false
  accepts : producer.state.refusal = none

theorem Producer.healthy_ofTransport (capacity : Nat) :
    (Producer.ofTransport capacity MemoryLog.transport (.empty none)).Healthy :=
  ⟨rfl, rfl, rfl⟩

theorem MemoryLog.append_accepted {log : MemoryLog} (accepts : log.refusal = none)
    (topic : String) (key : Option String) (value : Json) :
    (log.append ⟨topic, key, .ofContent (.json value)⟩).2.records =
        log.records ++ [⟨topic, key, Text.bytes value.compact⟩] ∧
      (log.append ⟨topic, key, .ofContent (.json value)⟩).2.refusal = none := by
  simp [append, accepts, Encoder.ofContent, Encoder.encode, Encoder.force, Content.bytes,
    Except.mapError]

/-- A value on the buffered path becomes the last record of the log. -/
theorem Producer.Healthy.sendAsync {producer : Producer MemoryLog} (healthy : producer.Healthy)
    (topic : String) (key : Option String) (value : Json) :
    (producer.sendAsync topic key (.json value)).Healthy ∧
      (producer.sendAsync topic key (.json value)).state.records =
        producer.state.records ++ [⟨topic, key, Text.bytes value.compact⟩] := by
  obtain ⟨transport, isOpen, accepts⟩ := healthy
  obtain ⟨records, stillAccepts⟩ := MemoryLog.append_accepted accepts topic key value
  simp only [Producer.sendAsync, transport, isOpen, MemoryLog.transport]
  split
  · contradiction
  · split
    · exact ⟨⟨rfl, rfl, stillAccepts⟩, records⟩
    · next report _ => cases report <;> exact ⟨⟨rfl, rfl, stillAccepts⟩, records⟩

namespace EventService

variable {σ : Type} {state middle after : ServiceState σ MemoryLog}
  {publications more : List Publication} (service : EventService σ)

/-- From one state to a later one, this is published in this order: the log gets one record for each
publication and no others, and stays healthy. -/
structure Publishes (service : EventService σ) (publications : List Publication)
    (state after : ServiceState σ MemoryLog) : Prop where
  healthy : after.producer.Healthy
  carried : ∃ added, after.producer.state.records = state.producer.state.records ++ added ∧
    List.Forall₂ (Publication.CarriedBy service.topic) publications added

/-- Nothing is published as long as the producer is left alone. -/
theorem publishes_nil (healthy : state.producer.Healthy) (same : after.producer = state.producer) :
    service.Publishes [] state after := by
  refine ⟨same ▸ healthy, [], ?_, .nil⟩
  rw [same, List.append_nil]

variable {service}

theorem Publishes.append (first : service.Publishes publications state middle)
    (second : service.Publishes more middle after) :
    service.Publishes (publications ++ more) state after := by
  obtain ⟨added, recordsFirst, carriedFirst⟩ := first.carried
  obtain ⟨addedLater, recordsSecond, carriedSecond⟩ := second.carried
  refine ⟨second.healthy, added ++ addedLater, ?_, List.rel_append carriedFirst carriedSecond⟩
  rw [recordsSecond, recordsFirst, List.append_assoc]

variable (service)

/-- The record that a publication becomes. -/
def publishedRecord (state : ServiceState σ MemoryLog) (publication : Publication) :
    PublishedRecord :=
  ⟨service.topic, some publication.key,
    Text.bytes (publication.message (service.supply.id .message state.drawn)).compact⟩

theorem records_publish (healthy : state.producer.Healthy) (publication : Publication) :
    (service.publish state publication).producer.Healthy ∧
      (service.publish state publication).producer.state.records =
        state.producer.state.records ++ [service.publishedRecord state publication] :=
  healthy.sendAsync service.topic (some publication.key) _

theorem publishes_publish (healthy : state.producer.Healthy) (publication : Publication) :
    service.Publishes [publication] state (service.publish state publication) := by
  obtain ⟨stillHealthy, appended⟩ := service.records_publish healthy publication
  exact ⟨stillHealthy, _, appended, .cons ⟨rfl, rfl, _, rfl⟩ .nil⟩

/-- Everything that is published becomes one record, in the same order. -/
theorem publishes_publishAll (state : ServiceState σ MemoryLog) (healthy : state.producer.Healthy)
    (publications : List Publication) :
    service.Publishes publications state (service.publishAll publications state) := by
  induction publications generalizing state with
  | nil => exact publishes_nil service healthy rfl
  | cons publication rest ih =>
    have first := publishes_publish service healthy publication
    exact first.append (ih _ first.healthy)

end EventService

end EventCorrelation
