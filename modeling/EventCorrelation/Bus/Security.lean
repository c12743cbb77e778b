import EventCorrelation.Bus.Fault
import EventCorrelation.Environment
import EventCorrelation.Text.Quoted

/-!
# Security of bus connections

Credentials are used only if user name, password and a known mechanism are all given; otherwise
the connection is plain. A known mechanism that cannot be used is refused and never replaced by a
plain connection. Descriptions do not show passwords.
-/

namespace EventCorrelation

/-- The properties that a client of the bus is configured with. -/
abbrev Properties := List (String × String)

namespace Mechanism

/-- The mechanism of a name, in either letter case and with blanks around it. -/
def ofName? (name : String) : Option Mechanism :=
  let upper := String.ofList ((Text.trimBlanks name.toList).map Char.toUpper)
  [plain, scram, oauth].find? (·.name == upper)

/-- The mechanism in the properties of a client. -/
def property : Mechanism → Except BusFault String
  | .plain => .ok "PLAIN"
  | .scram => .ok "SCRAM-SHA-512"
  | .oauth => .error (.unsupportedMechanism .oauth)

/-- The mechanism in descriptions. -/
def describe : Mechanism → String
  | .plain => "Plain"
  | .scram => "Scram"
  | .oauth => "OAuth2"

end Mechanism

structure Credentials where
  mechanism : Mechanism
  username : String
  password : String
deriving DecidableEq

/-- The description of credentials, in which the password is replaced. -/
def Credentials.describe (credentials : Credentials) : String :=
  "SaslCredentials \x7b mechanism: " ++ credentials.mechanism.describe ++ ", username: " ++
    Text.quoted credentials.username ++ ", password: " ++ Text.quoted "<redacted>" ++ " \x7d"

/-- The credentials that settings ask for. -/
inductive Authentication where
  | disabled
  | enabled (credentials : Credentials)
deriving DecidableEq

namespace Authentication

def usernameVariable : String := "KAFKA_SASL_USERNAME"

def passwordVariable : String := "KAFKA_SASL_PASSWORD"

def mechanismVariable : String := "KAFKA_SASL_MECHANISM"

/-- The credentials in an environment. A blank value counts as missing. -/
def ofEnvironment (environment : Environment) : Authentication :=
  match environment.nonBlank? usernameVariable, environment.nonBlank? passwordVariable,
      (environment.nonBlank? mechanismVariable).bind Mechanism.ofName? with
  | some username, some password, some mechanism => .enabled ⟨mechanism, username, password⟩
  | _, _, _ => .disabled

def mechanism? : Authentication → Option Mechanism
  | .disabled => none
  | .enabled credentials => some credentials.mechanism

def describe : Authentication → String
  | .disabled => "Disabled"
  | .enabled credentials => "Enabled(" ++ credentials.describe ++ ")"

end Authentication

/-- How a connection is protected. -/
inductive Security where
  | plain
  | authenticated (credentials : Credentials)
deriving DecidableEq

namespace Security

/-- The protection with the credentials of settings. -/
def ofAuthentication : Authentication → Security
  | .disabled => .plain
  | .enabled credentials => .authenticated credentials

/-- The protection that an environment asks for. -/
def ofEnvironment (environment : Environment) : Security :=
  ofAuthentication (.ofEnvironment environment)

/-- The properties of a protected connection. -/
def properties : Security → Except BusFault Properties
  | .plain => .ok [("security.protocol", "plaintext")]
  | .authenticated credentials => do
    let mechanism ← credentials.mechanism.property
    return [("security.protocol", "sasl_ssl"), ("sasl.mechanism", mechanism),
      ("sasl.username", credentials.username), ("sasl.password", credentials.password)]

def describe : Security → String
  | .plain => "Plaintext"
  | .authenticated credentials => "SaslTls(" ++ credentials.describe ++ ")"

end Security

end EventCorrelation
