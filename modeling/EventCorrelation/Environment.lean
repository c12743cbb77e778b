import EventCorrelation.Text.Blank

/-!
# Environments

The variables that settings are read from.
-/

namespace EventCorrelation

/-- The value of every variable that is set. -/
abbrev Environment := String → Option String

namespace Environment

/-- An environment without any variable. -/
def empty : Environment := fun _ => none

/-- The value of a variable unless it is blank. -/
def nonBlank? (environment : Environment) (name : String) : Option String :=
  (environment name).filter fun value => !Text.allBlank value

end Environment

end EventCorrelation
