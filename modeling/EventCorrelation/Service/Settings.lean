import EventCorrelation.Bus.Settings
import EventCorrelation.Database.Settings

/-!
# Settings of the service

Topics, database and producer of a deployment. Settings of a producer that would be refused later
are refused here, unless nothing is published at all.
-/

namespace EventCorrelation

structure ServiceSettings where
  logLevel : String
  development : Bool
  outboundTopic : String
  intakeTopic : String
  database : DatabaseSettings
  producer : ProducerSettings
deriving DecidableEq

namespace ServiceSettings

/-- The topic that announcements go to. -/
def standardOutboundTopic : String := "quorum.events"

/-- The topic that commands come from. -/
def standardIntakeTopic : String := "quorum.intake"

/-- The consumer group of the service. -/
def standardGroup : String := "quorum-ingest"

/-- A text that switches something on. -/
def isOn (text : String) : Bool :=
  text == "1" || text.toList.map Char.toLower == "true".toList

/-- The settings in an environment, by the name of the process. -/
def ofEnvironment (process : String) (environment : Environment) :
    Except BusFault ServiceSettings := do
  let producer := ProducerSettings.ofEnvironment environment
  if producer.isEnabled then
    let _ ← producer.properties process
  return {
    logLevel := (environment "QUORUM_LOG_LEVEL").getD "info"
    development := (environment "QUORUM_DEV").any isOn
    outboundTopic := (environment "QUORUM_OUTBOUND_TOPIC").getD standardOutboundTopic
    intakeTopic := (environment "QUORUM_INTAKE_TOPIC").getD standardIntakeTopic
    database := .ofEnvironment environment
    producer }

end ServiceSettings

end EventCorrelation
