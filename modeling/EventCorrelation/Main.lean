import EventCorrelation.CommandLine.Invocation

/-!
# The program

Reads the command line and the environment, carries out the command, and prints what it leaves
behind.
-/

namespace EventCorrelation

/-- The variables that commands look at. -/
def Invocation.variables : List String :=
  [Brokers.variableName, Authentication.usernameVariable, Authentication.passwordVariable,
    Authentication.mechanismVariable]

end EventCorrelation

open EventCorrelation

def main (words : List String) : IO UInt32 := do
  let values ← Invocation.variables.mapM fun name => return (name, ← IO.getEnv name)
  let environment : Environment := fun name => (values.lookup name).join
  let colored := (← (← IO.getStdout).isTty) && (← IO.getEnv "NO_COLOR").isNone
  let process := toString (← IO.rand 0 (Nat.pow 2 64 - 1))
  match Invocation.parse environment words with
  | .error .versionAsked =>
    IO.print Invocation.versionLine
    return 0
  | .error .helpAsked =>
    IO.print Invocation.usage
    return 0
  | .error fault =>
    IO.eprintln fault.message
    return fault.exitCode.toUInt32
  | .ok invocation =>
    let link := .error (.consuming "no broker can be reached")
    let outcome := invocation.run colored environment process link
    IO.print outcome.output
    IO.eprint outcome.errors
    return outcome.exitCode.toUInt32
