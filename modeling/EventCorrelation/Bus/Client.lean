import EventCorrelation.Bus.Settings

/-!
# Clients of the bus

Producers, members of consumer groups and watchers as one: how their settings are made with the
security of an environment, what an environment asks for, and what the properties of a client say
about its protection.
-/

namespace EventCorrelation

namespace Environment

open Authentication

/-- A user name and a password are given, neither of them blank. -/
def GivesCredentials (environment : Environment) (username password : String) : Prop :=
  environment usernameVariable = some username ∧ Text.allBlank username = false ∧
    environment passwordVariable = some password ∧ Text.allBlank password = false

/-- The mechanism that is named, in ASCII capitals and without the blanks around it. -/
def mechanismName? (environment : Environment) : Option String :=
  (environment mechanismVariable).map fun name =>
    String.ofList ((Text.trimBlanks name.toList).map Char.toUpper)

/-- The environments give two passwords, neither of them blank, and nothing else tells them apart. -/
def DifferInPassword (left right : Environment) : Prop :=
  (∀ name, name ≠ passwordVariable → left name = right name) ∧
    ∃ password other, left passwordVariable = some password ∧ Text.allBlank password = false ∧
      right passwordVariable = some other ∧ Text.allBlank other = false

end Environment

namespace Properties

/-- What the properties say about the protection of the connection. -/
def protecting (properties : Properties) : Properties :=
  properties.filter fun property =>
    property.1 == "security.protocol" || "sasl.".toList.isPrefixOf property.1.toList

def withoutPassword (properties : Properties) : Properties :=
  properties.filter (·.1 != "sasl.password")

end Properties

/-- The settings of a client of any kind. -/
inductive ClientSettings where
  | producer (settings : ProducerSettings)
  | member (settings : MemberSettings)
  | watcher (settings : WatchSettings)
deriving DecidableEq

namespace ClientSettings

def withSecurity (security : Security) : ClientSettings → ClientSettings
  | .producer settings => .producer { settings with security }
  | .member settings => .member { settings with security }
  | .watcher settings => .watcher { settings with security }

/-- The properties of the client, by the name of the process. -/
def properties (process : String) : ClientSettings → Except BusFault Properties
  | .producer settings => settings.properties process
  | .member settings => settings.properties process
  | .watcher settings => settings.properties process

def describe : ClientSettings → String
  | .producer settings => settings.describe
  | .member settings => settings.describe
  | .watcher settings => settings.describe

/-- There is a group where one is needed, and the version is known. -/
def isComplete : ClientSettings → Bool
  | .producer settings => (BrokerVersion.parse settings.version).isOk
  | .member settings =>
    !Text.allBlank settings.group && (BrokerVersion.parse settings.version).isOk
  | .watcher settings => !Text.allBlank settings.group

end ClientSettings

/-- Where settings come from whose security is that of an environment. -/
inductive ClientSource where
  /-- All else is given. -/
  | given (settings : ClientSettings)
  | producer
  | member (topics : List String) (group : Option String)

namespace ClientSource

/-- The settings that are made in an environment. -/
def settings (environment : Environment) : ClientSource → Except BusFault ClientSettings
  | .given settings => .ok (settings.withSecurity (.ofEnvironment environment))
  | .producer => .ok (.producer (.ofEnvironment environment))
  | .member topics group => (MemberSettings.ofEnvironment environment topics group).map .member

/-- The properties of a client with these settings. -/
def properties (environment : Environment) (process : String) (source : ClientSource) :
    Except BusFault Properties := do
  let settings ← source.settings environment
  settings.properties process

end ClientSource

end EventCorrelation
