import EventCorrelation.Service.EventCall
import EventCorrelation.Service.History

/-!
# Interleavings

Several calls that create events on one service at the same time. A schedule names the call that
takes each step, so every order of the steps of the calls is a schedule.
-/

namespace EventCorrelation

/-- Calls in progress, and the state of the service that they share. -/
structure Interleaving (σ τ : Type) where
  calls : List EventCall
  state : ServiceState σ τ

/-- Every member of a group has a successful event. -/
def MemoryStore.Satisfies (store : MemoryStore) (group : ReceiverGroup) : Prop :=
  ∀ member ∈ group.memberIds, store.hasSuccess member = true

namespace Interleaving

variable {σ τ : Type}

/-- All calls are requested, and none has taken a step. -/
def start (news : List NewEvent) (state : ServiceState σ τ) : Interleaving σ τ :=
  ⟨news.map .requested, state⟩

def step (service : EventService σ) (current : Interleaving σ τ) (index : Nat) :
    Interleaving σ τ :=
  match current.calls[index]? with
  | none => current
  | some call =>
    let (call, state) := call.advance service current.state
    ⟨current.calls.set index call, state⟩

def run (service : EventService σ) (schedule : List Nat) (first : Interleaving σ τ) :
    Interleaving σ τ :=
  schedule.foldl (step service) first

/-- All calls are through. -/
def Returned (current : Interleaving σ τ) : Prop :=
  ∀ call ∈ current.calls, call.result?.isSome = true

/-- With the next step of the call with the index, whichever step that is, the completion of the
group is announced. -/
def Announces (service : EventService σ) (current : Interleaving σ MemoryLog) (index : Nat)
    (group : ReceiverGroup) : Prop :=
  service.Announced group current.state (current.step service index).state

/-- In the course of a schedule the call with the index has announced the completion of the
group. -/
def HasAnnounced (service : EventService σ) (first : Interleaving σ MemoryLog)
    (schedule : List Nat) (index : Nat) (group : ReceiverGroup) : Prop :=
  ∃ earlier later, schedule = earlier ++ index :: later ∧
    (run service earlier first).Announces service index group

end Interleaving

end EventCorrelation
