import EventCorrelation.Bus.Producer

/-!
# Handles of drains

Whoever starts a drain gets a handle, by which its result can be collected once. Collecting lets the
drains do what they can, and gives the handle up even if the drain goes on.
-/

namespace EventCorrelation

/-- A producer and the drains whose handles are still held. -/
structure AttendedProducer (σ : Type) where
  producer : Producer σ
  held : List ReportKind

/-- What collecting the result of a drain gives. -/
inductive DrainResult where
  | drained (count : Nat)
  | stillDraining
  | noHandle
deriving DecidableEq

namespace AttendedProducer

variable {σ : Type}

def holds (kind : ReportKind) (attended : AttendedProducer σ) : Bool :=
  attended.held.contains kind

/-- Starts a drain, once, and holds its handle. -/
def start (kind : ReportKind) (attended : AttendedProducer σ) :
    Except BusFault Unit × AttendedProducer σ :=
  match attended.producer.startDrain kind with
  | (.ok (), producer) => (.ok (), ⟨producer, kind :: attended.held⟩)
  | (.error fault, producer) => (.error fault, { attended with producer })

/-- Gives a handle up. -/
def detach (kind : ReportKind) (attended : AttendedProducer σ) : AttendedProducer σ :=
  { attended with held := attended.held.filter (· != kind) }

/-- Collects the result of a drain. -/
def join (kind : ReportKind) (attended : AttendedProducer σ) : DrainResult × AttendedProducer σ :=
  if attended.holds kind then
    let producer := attended.producer.settle
    let result := match producer.drained? kind with
      | some count => .drained count
      | none => .stillDraining
    (result, { attended with producer }.detach kind)
  else (.noHandle, attended)

/-- Tells a drain to stop and collects its result. -/
def stop (kind : ReportKind) (attended : AttendedProducer σ) : DrainResult × AttendedProducer σ :=
  if attended.holds kind then
    { attended with producer := attended.producer.requestStop kind }.join kind
  else (.noHandle, attended)

end AttendedProducer

end EventCorrelation
