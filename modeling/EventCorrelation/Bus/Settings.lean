import EventCorrelation.Bus.Security
import EventCorrelation.Text.Pieces

/-!
# Settings of bus clients

Producers, members of consumer groups and watchers, from explicit values or from an environment, and
the properties that follow from them. The broker version is checked when the properties are made,
after the consumer group and before the security.
-/

namespace EventCorrelation

/-- A release of the broker that clients can speak to. -/
structure BrokerVersion where
  text : String
deriving DecidableEq

namespace BrokerVersion

/-- The releases in their order. -/
def known : List String := [
  "0.10.0.0", "0.10.0.1", "0.10.1.0", "0.10.1.1", "0.10.2.0", "0.10.2.1", "0.10.2.2",
  "0.11.0.0", "0.11.0.1", "0.11.0.2", "1.0.0", "1.0.1", "1.0.2", "1.1.0", "1.1.1", "2.0.0",
  "2.0.1", "2.1.0", "2.1.1", "2.2.0", "2.2.1", "2.2.2", "2.3.0", "2.3.1", "2.4.0", "2.4.1",
  "2.5.0", "2.5.1", "2.6.0", "2.6.1", "2.6.2", "2.7.0", "2.7.1", "2.8.0", "2.8.1", "2.8.2",
  "3.0.0", "3.0.1", "3.1.0", "3.1.1", "3.2.0", "3.2.1", "3.2.3", "3.3.1", "3.3.2", "3.4.0",
  "3.4.1", "3.5.0", "3.5.1", "3.6.0", "3.6.1", "3.7.0", "3.8.0"]

/-- The release of a text, which may have blanks around it. -/
def parse (text : String) : Except BusFault BrokerVersion :=
  let trimmed := Text.trim text
  if known.contains trimmed then .ok ⟨trimmed⟩ else .error (.unknownVersion trimmed)

/-- The release that is assumed if none is given. -/
def standard : BrokerVersion := ⟨"2.8.0"⟩

end BrokerVersion

namespace Brokers

def variableName : String := "KAFKA_BROKERS"

/-- The brokers of a text: its pieces without the blanks around them, unless nothing is left. -/
def parse (text : String) : List String :=
  (((Text.pieces ',' text.toList).map Text.trimBlanks).filter (!·.isEmpty)).map String.ofList

/-- The brokers as one text. -/
def join (brokers : List String) : String := ",".intercalate brokers

/-- The brokers in an environment. -/
def ofEnvironment (environment : Environment) : List String :=
  parse ((environment variableName).getD "")

end Brokers

namespace Settings

def versionVariable : String := "KAFKA_VERSION"

def groupVariable : String := "KAFKA_GROUP_ID"

/-- The version in an environment. -/
def versionOf (environment : Environment) : String :=
  (environment versionVariable).getD BrokerVersion.standard.text

/-- The name of a client, by its role and the name of its process. -/
def clientName (role process : String) : String := "quorum-" ++ role ++ "-" ++ process

/-- The properties that all clients have. -/
def commonProperties (brokers : List String) (version : String) (security : Security) :
    Except BusFault Properties := do
  let version ← BrokerVersion.parse version
  let protection ← security.properties
  return [("bootstrap.servers", Brokers.join brokers), ("api.version.request", "true"),
    ("broker.version.fallback", version.text)] ++ protection

/-- Refuses a blank group. -/
def checkGroup (group : String) : Except BusFault Unit :=
  if Text.allBlank group then .error .missingGroup else .ok ()

/-- A list of texts in a description. -/
def describeList (values : List String) : String :=
  "[" ++ ", ".intercalate (values.map Text.quoted) ++ "]"

/-- The digits behind a decimal point, without the zeros at their end. -/
def fractionText (thousandths : Nat) : String :=
  let digits := (toString (1000 + thousandths)).toList.drop 1
  match (digits.reverse.dropWhile (· == '0')).reverse with
  | [] => ""
  | digits => "." ++ String.ofList digits

/-- A duration in a description. -/
def describeMillis (millis : Nat) : String :=
  if millis = 0 then "0ns"
  else if millis < 1000 then toString millis ++ "ms"
  else toString (millis / 1000) ++ fractionText (millis % 1000) ++ "s"

end Settings

/-- Settings of a producer. Without brokers nothing is published. -/
structure ProducerSettings where
  brokers : List String
  version : String
  security : Security
  retries : Nat
  metadataMillis : Nat
  sendMillis : Nat
  reportCapacity : Nat
deriving DecidableEq

namespace ProducerSettings

open Settings

/-- The number of attempts to publish a record. -/
def standardRetries : Nat := 10

/-- The limit of requests for metadata. -/
def standardMetadataMillis : Nat := 30000

/-- Plain settings for brokers. -/
def ofBrokers (brokers : List String) : ProducerSettings where
  brokers
  version := BrokerVersion.standard.text
  security := .plain
  retries := standardRetries
  metadataMillis := standardMetadataMillis
  sendMillis := 30000
  reportCapacity := 256

/-- The settings in an environment. -/
def ofEnvironment (environment : Environment) : ProducerSettings :=
  { ofBrokers (Brokers.ofEnvironment environment) with
    version := versionOf environment
    security := .ofEnvironment environment }

/-- There is a broker to publish to. -/
def isEnabled (settings : ProducerSettings) : Bool := !settings.brokers.isEmpty

/-- The properties of the client, by the name of the process. -/
def properties (process : String) (settings : ProducerSettings) :
    Except BusFault Properties := do
  let common ← commonProperties settings.brokers settings.version settings.security
  return common ++ [("client.id", clientName "producer" process), ("acks", "all"),
    ("retries", toString settings.retries), ("partitioner", "murmur2_random"),
    ("socket.timeout.ms", toString settings.metadataMillis),
    ("message.timeout.ms", toString settings.sendMillis)]

def describe (settings : ProducerSettings) : String :=
  "ProducerConfig \x7b brokers: " ++ describeList settings.brokers ++ ", version: " ++
    Text.quoted settings.version ++ ", security: " ++ settings.security.describe ++
    ", retries: " ++ toString settings.retries ++ ", metadata_timeout: " ++
    describeMillis settings.metadataMillis ++ ", send_timeout: " ++
    describeMillis settings.sendMillis ++ ", report_capacity: " ++
    toString settings.reportCapacity ++ " \x7d"

end ProducerSettings

/-- Settings of a member of a consumer group. -/
structure MemberSettings where
  brokers : List String
  topics : List String
  group : String
  version : String
  security : Security
  retryMillis : Nat
deriving DecidableEq

namespace MemberSettings

open Settings

/-- Plain settings. -/
def ofBrokers (brokers topics : List String) (group : String) : MemberSettings where
  brokers
  topics
  group
  version := BrokerVersion.standard.text
  security := .plain
  retryMillis := 1000

/-- The settings in an environment. A given group goes before the one of the environment. -/
def ofEnvironment (environment : Environment) (topics : List String) (group : Option String) :
    Except BusFault MemberSettings := do
  let group := (group.or (environment groupVariable)).getD ""
  checkGroup group
  return { ofBrokers (Brokers.ofEnvironment environment) topics group with
    version := versionOf environment
    security := .ofEnvironment environment }

/-- The properties of the client, by the name of the process. Offsets are stored record by record
and committed in the background. -/
def properties (process : String) (settings : MemberSettings) : Except BusFault Properties := do
  checkGroup settings.group
  let common ← commonProperties settings.brokers settings.version settings.security
  return common ++ [("client.id", clientName "consumer" process), ("group.id", settings.group),
    ("enable.auto.commit", "true"), ("enable.auto.offset.store", "false"),
    ("auto.offset.reset", "earliest"), ("enable.partition.eof", "false")]

def describe (settings : MemberSettings) : String :=
  "ConsumerGroupConfig \x7b brokers: " ++ describeList settings.brokers ++ ", topics: " ++
    describeList settings.topics ++ ", group_id: " ++ Text.quoted settings.group ++
    ", version: " ++ Text.quoted settings.version ++ ", security: " ++
    settings.security.describe ++ ", retry_backoff: " ++ describeMillis settings.retryMillis ++
    " \x7d"

end MemberSettings

/-- Settings of a watcher, which always speaks the standard version. -/
structure WatchSettings where
  brokers : List String
  topics : List String
  group : String
  security : Security
deriving DecidableEq

namespace WatchSettings

open Settings

/-- The properties of the client, by the name of the process. -/
def properties (process : String) (settings : WatchSettings) : Except BusFault Properties := do
  checkGroup settings.group
  let common ← commonProperties settings.brokers BrokerVersion.standard.text settings.security
  return common ++ [("client.id", clientName "watcher" process), ("group.id", settings.group),
    ("enable.auto.commit", "true"), ("auto.offset.reset", "latest")]

def describe (settings : WatchSettings) : String :=
  "WatcherConfig \x7b brokers: " ++ describeList settings.brokers ++ ", topics: " ++
    describeList settings.topics ++ ", group: " ++ Text.quoted settings.group ++
    ", security: " ++ settings.security.describe ++ " \x7d"

end WatchSettings

end EventCorrelation
