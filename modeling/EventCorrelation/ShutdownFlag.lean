/-!
# Shutdown flags

How a task is told to stop: a flag that its owner may write any number of times, and may abandon. A
write wakes the task even if it leaves the flag as it was. A task that is woken stops if the flag is
set, or if there is no write to look at and nobody is left who could make one.
-/

namespace EventCorrelation

structure ShutdownFlag where
  isSet : Bool
  hasOwner : Bool
  /-- The task has not looked at the last write. -/
  isUnseen : Bool
deriving DecidableEq

namespace ShutdownFlag

/-- A flag that is not set. -/
def lowered : ShutdownFlag := ⟨false, true, false⟩

/-- A flag that was set before the task came to see it. -/
def raised : ShutdownFlag := ⟨true, true, false⟩

/-- A write by the owner, if there still is one. -/
def write (value : Bool) (flag : ShutdownFlag) : ShutdownFlag :=
  if flag.hasOwner then { flag with isSet := value, isUnseen := true } else flag

/-- The owner goes away. -/
def abandon (flag : ShutdownFlag) : ShutdownFlag := { flag with hasOwner := false }

/-- The flag wakes a task that waits. -/
def wakes (flag : ShutdownFlag) : Bool := flag.isUnseen || !flag.hasOwner

/-- A task that the flag has woken must stop. -/
def stops (flag : ShutdownFlag) : Bool := flag.isSet || !flag.isUnseen

/-- The flag once the task has looked at it. -/
def seen (flag : ShutdownFlag) : ShutdownFlag := { flag with isUnseen := false }

end ShutdownFlag

end EventCorrelation
