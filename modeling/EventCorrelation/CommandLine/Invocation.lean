import EventCorrelation.CommandLine.Arguments
import EventCorrelation.CommandLine.Fault
import EventCorrelation.CommandLine.FingerprintLine
import EventCorrelation.CommandLine.Watch
import EventCorrelation.Bus.Settings

/-!
# Invocations

The commands of the program, how arguments and environment become one, and what each leaves behind.
-/

namespace EventCorrelation

/-- What to watch. -/
structure WatchRequest where
  brokers : String
  topics : List String
  group : String
  filter : RecordFilter
deriving DecidableEq

inductive Command where
  | watch (request : WatchRequest)
  | fingerprint (seed : FingerprintSeed)
  | version
deriving DecidableEq

structure Invocation where
  format : OutputFormat
  command : Command
deriving DecidableEq

/-- What a command leaves behind. -/
structure CommandOutcome where
  exitCode : Nat
  output : String
  errors : String
  /-- The settings of the client that was made on the way. -/
  connected : Option WatchSettings

namespace Invocation

def programName : String := "quorumctl"

def programVersion : String := "0.1.0"

/-- The line that tells the version. -/
def versionLine : String := programName ++ " " ++ programVersion ++ "\n"

def standardTopic : String := "quorum.events"

def standardGroup : String := "quorumctl-watch"

/-- An option that takes any value. -/
def valueOption (name : String) (role : OptionRole) : OptionRule := ⟨name, none, role, []⟩

/-- The options that every command has. -/
def commonOptions : List OptionRule :=
  [⟨"format", none, .single, OutputFormat.all.map OutputFormat.name⟩,
    ⟨"help", some 'h', .help, []⟩]

def rootRule : CommandRule where
  options := commonOptions ++ [⟨"version", some 'V', .version, []⟩]
  required := []
  commands := ["watch", "fingerprint", "version", "help"]

def watchRule : CommandRule where
  options := commonOptions ++ [valueOption "brokers" .single, valueOption "topic" .repeated,
    valueOption "group" .single, valueOption "type" .single, valueOption "source" .single,
    ⟨"failed", none, .switch, []⟩]
  required := []
  commands := []

def fingerprintRule : CommandRule where
  options := commonOptions ++ [valueOption "action" .single, valueOption "description" .single,
    valueOption "name" .single, valueOption "tag" .repeated, valueOption "version" .single]
  required := ["action", "name", "version"]
  commands := []

def versionRule : CommandRule := ⟨commonOptions, [], []⟩

/-- What is told to those who ask for help. -/
def usage : String :=
  "Usage: " ++ programName ++ " [--format text|json|yaml] <command> [options]\n\n" ++
    "Commands:\n" ++
    "  watch        Tail bus topics, printing messages as they arrive\n" ++
    "  fingerprint  Compute the fingerprint of a receiver or group\n" ++
    "  version      Show the version\n"

/-- What the arguments of a watch ask for. Brokers may come from the environment instead. -/
def watchRequest (environment : Environment) (read : Arguments) : WatchRequest where
  brokers := ((read.value? "brokers").or (environment Brokers.variableName)).getD ""
  topics := if read.has "topic" then read.values "topic" else [standardTopic]
  group := (read.value? "group").getD standardGroup
  filter := ⟨read.value? "type", read.value? "source", read.has "failed"⟩

/-- What the arguments of a fingerprint ask for. -/
def fingerprintSeed (read : Arguments) : FingerprintSeed where
  action := (read.value? "action").getD ""
  description := (read.value? "description").getD ""
  name := (read.value? "name").getD ""
  tags := read.values "tag"
  version := (read.value? "version").getD ""

/-- Reads the words behind a command. -/
def readCommand (environment : Environment) (name : String) (words : List String) :
    Except UsageFault (Arguments × Command) :=
  match name with
  | "watch" => do
    let read ← Arguments.readAll watchRule words
    return (read, .watch (watchRequest environment read))
  | "fingerprint" => do
    let read ← Arguments.readAll fingerprintRule words
    return (read, .fingerprint (fingerprintSeed read))
  | _ => do
    let read ← Arguments.readAll versionRule words
    return (read, .version)

/-- What asking for help on a command comes to. -/
def helpOn : List String → UsageFault
  | [] => .helpAsked
  | [name] => if rootRule.commands.contains name then .helpAsked else .unknownCommand name
  | name :: word :: _ =>
    if rootRule.commands.contains name then .unknownCommand word else .unknownCommand name

/-- Reads the words of a command line. The format may be given before or behind the command; the
latter counts. -/
def parse (environment : Environment) (words : List String) : Except UsageFault Invocation := do
  let (root, next) ← Arguments.scan rootRule .empty words
  match next with
  | some ("help", rest) => throw (helpOn rest)
  | some (name, rest) =>
    let (read, command) ← readCommand environment name rest
    let root ← root.resolve
    let format := ((read.value? "format").or (root.value? "format")).bind OutputFormat.ofName?
    return ⟨format.getD .text, command⟩
  | none =>
    let root ← root.resolve
    throw (if root.given.isEmpty then .nothingGiven else .missingCommand)

/-- A command that failed. -/
def failed (colored : Bool) (lines : List String) (connected : Option WatchSettings)
    (fault : CommandFault) : CommandOutcome :=
  ⟨1, String.join (lines.map (· ++ "\n")), fault.report colored, connected⟩

/-- The settings of a watch, if a client can be made of them. -/
def watchSettings (environment : Environment) (process : String) (request : WatchRequest) :
    Except CommandFault WatchSettings :=
  match Brokers.parse request.brokers with
  | [] => .error .noBrokers
  | brokers =>
    let settings : WatchSettings :=
      ⟨brokers, request.topics, request.group, .ofEnvironment environment⟩
    match settings.properties process with
    | .error fault => .error (.bus fault)
    | .ok _ => .ok settings

/-- Watches what connecting gives access to. -/
def runWatch (colored : Bool) (format : OutputFormat) (environment : Environment)
    (process : String) (link : Except BusFault (List Fetch)) (request : WatchRequest) :
    CommandOutcome :=
  match watchSettings environment process request with
  | .error fault => failed colored [] none fault
  | .ok settings => match link with
    | .error fault => failed colored [] (some settings) (.bus fault)
    | .ok script =>
      let outcome := request.filter.watch colored format script
      match outcome.result with
      | .error fault => failed colored outcome.lines (some settings) (.bus fault)
      | .ok () => ⟨0, String.join (outcome.lines.map (· ++ "\n")), "", some settings⟩

/-- Carries out a command. The link is what connecting to the brokers of a watch gives. -/
def run (colored : Bool) (environment : Environment) (process : String)
    (link : Except BusFault (List Fetch)) (invocation : Invocation) : CommandOutcome :=
  match invocation.command with
  | .watch request => runWatch colored invocation.format environment process link request
  | .fingerprint seed => ⟨0, seed.render invocation.format ++ "\n", "", none⟩
  | .version => ⟨0, versionLine, "", none⟩

end Invocation

end EventCorrelation
