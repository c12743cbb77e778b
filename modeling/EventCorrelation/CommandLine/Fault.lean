import EventCorrelation.Bus.Fault
import EventCorrelation.CommandLine.Style

/-!
# Faults of commands

Why a command fails, and how that is told: one line, and a hint where there is something to be done.
-/

namespace EventCorrelation

inductive CommandFault where
  | noBrokers
  | bus (fault : BusFault)
  /-- Anything else. -/
  | other (reason : String)
deriving DecidableEq

namespace CommandFault

def message : CommandFault → String
  | .noBrokers => "No brokers configured."
  | .bus fault => "Bus error: " ++ fault.message
  | .other reason => reason

/-- What to do about it. -/
def hint? : CommandFault → Option String
  | .noBrokers => some "Hint: Pass --brokers or set KAFKA_BROKERS."
  | .bus fault => match fault with
    | .fetching _ =>
      some "Hint: The broker connection was lost; the watch cannot resume in-process."
    | fault =>
      if fault.isSettingFault then some "Hint: Check KAFKA_VERSION and KAFKA_SASL_MECHANISM."
      else none
  | .other _ => none

/-- What is told about a fault. -/
def report (colored : Bool) (fault : CommandFault) : String :=
  let hint := match fault.hint? with
    | some hint => "\n" ++ Style.yellow.paint colored hint ++ "\n"
    | none => ""
  Style.boldRed.paint colored "Error:" ++ " " ++ fault.message ++ "\n" ++ hint

end CommandFault

end EventCorrelation
