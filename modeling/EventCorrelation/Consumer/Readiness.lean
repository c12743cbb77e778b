/-!
# Readiness

How a member of a consumer group lets others wait for its next session. A signal is armed, handed
out to at most one waiter, and fired when a session is set up. The next one is armed only after
that, so a waiter never loses its signal.
-/

namespace EventCorrelation

/-- What has become of a signal. -/
inductive Signal where
  | pending
  | fired
  /-- It was given up before it fired, and never will. -/
  | abandoned
deriving DecidableEq

structure Readiness where
  /-- Every signal so far, the oldest first. -/
  signals : List Signal
  /-- The number of the signal that the next set-up fires. -/
  armed : Option Nat
  /-- The number of the signal that the next caller is handed. -/
  offered : Option Nat
deriving DecidableEq

namespace Readiness

/-- Arms a fresh signal, in place of one that may still be armed. -/
def arm (readiness : Readiness) : Readiness where
  signals := (match readiness.armed with
    | some number => readiness.signals.set number .abandoned
    | none => readiness.signals) ++ [.pending]
  armed := some readiness.signals.length
  offered := some readiness.signals.length

/-- The first signal is armed. -/
def initial : Readiness := arm ⟨[], none, none⟩

/-- Arms a fresh signal once the last one has fired. -/
def rearm (readiness : Readiness) : Readiness :=
  match readiness.armed with
  | some _ => readiness
  | none => readiness.arm

/-- Fires the armed signal. -/
def fire (readiness : Readiness) : Readiness :=
  match readiness.armed with
  | some number =>
    { readiness with signals := readiness.signals.set number .fired, armed := none }
  | none => readiness

/-- Hands out the signal armed last, once. -/
def take (readiness : Readiness) : Option Nat × Readiness :=
  (readiness.offered, { readiness with offered := none })

end Readiness

end EventCorrelation
