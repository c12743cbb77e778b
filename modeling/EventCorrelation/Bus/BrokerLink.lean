import EventCorrelation.Bus.Transport

/-!
# Links to a broker

A transport that hands encoded records to a broker. A record that cannot be encoded never reaches
the broker; once the link is closed, nothing does.
-/

namespace EventCorrelation

/-- What a broker answers to a record: the partition and the offset, or why it was refused. -/
abbrev Broker := OutboundRecord → List UInt8 → Except String (Int × Int)

/-- A link, as far as it can be seen from this side. -/
structure BrokerLink where
  isOpen : Bool

namespace BrokerLink

/-- The outcome of an encoded record. -/
def outcome (broker : Broker) (record : OutboundRecord) (payload : List UInt8) :
    Except BusFault Delivered :=
  match broker record payload with
  | .ok (partition, offset) => .ok ⟨record.topic, partition, offset⟩
  | .error reason => .error (.publishing record.topic reason)

/-- A link as a transport. The buffered path encodes first and then looks whether the link is open,
the other path the other way round. -/
def transport (broker : Broker) : Transport BrokerLink where
  enqueue record link :=
    let outcome := match record.value.encode with
      | (.error fault, _) => .error fault
      | (.ok payload, _) =>
        if link.isOpen then outcome broker record payload else .error .closed
    (if link.isOpen then some (.ofOutcome record.topic outcome) else none, link)
  deliver record link :=
    let result := if link.isOpen then
        match record.value.encode with
        | (.error fault, _) => .error fault
        | (.ok payload, _) => outcome broker record payload
      else .error .closed
    (result, link)
  close _ := (.ok (), ⟨false⟩)
  mayReport link := link.isOpen

end BrokerLink

end EventCorrelation
