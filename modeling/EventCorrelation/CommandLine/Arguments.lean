/-!
# Arguments of a command

How the words behind a command are read as options. An option is named by two hyphens and its
name, or one hyphen and its letter; its value stands in the next word or behind an equals sign. A
word that begins with a hyphen is never taken as the value of the option before it. Two hyphens
alone end the options.

An option whose value stands in a word of its own takes effect only when the next option does, or
when the words are through.
-/

namespace EventCorrelation

/-- What an option does. -/
inductive OptionRole where
  /-- It takes a value, once. -/
  | single
  /-- It takes a value, any number of times. -/
  | repeated
  /-- It takes no value and may be given once. -/
  | switch
  | help
  | version
deriving DecidableEq

structure OptionRule where
  name : String
  letter : Option Char
  role : OptionRole
  /-- The values that it may take; without any, all. -/
  choices : List String
deriving DecidableEq

/-- What may stand behind a command. -/
structure CommandRule where
  options : List OptionRule
  /-- The options that must be given. -/
  required : List String
  /-- The commands that may follow. -/
  commands : List String
deriving DecidableEq

/-- Why the arguments are no request, or what they ask for instead of a command. -/
inductive UsageFault where
  | invalidValue (option : String)
  | unknownArgument (word : String)
  | repeatedArgument (option : String)
  | missingArgument (option : String)
  | unwantedValue (option : String)
  | unknownCommand (word : String)
  | missingCommand
  | nothingGiven
  | helpAsked
  | versionAsked
deriving DecidableEq

namespace UsageFault

/-- Help and the version are answers, all else is an error. -/
def exitCode : UsageFault → Nat
  | .helpAsked => 0
  | .versionAsked => 0
  | _ => 2

def message : UsageFault → String
  | .invalidValue option => "invalid or missing value for --" ++ option
  | .unknownArgument word => "unexpected argument " ++ word
  | .repeatedArgument option => "--" ++ option ++ " cannot be used multiple times"
  | .missingArgument option => "--" ++ option ++ " is required"
  | .unwantedValue option => "--" ++ option ++ " takes no value"
  | .unknownCommand word => "unrecognized subcommand " ++ word
  | .missingCommand => "a subcommand is required"
  | .nothingGiven => "a subcommand is required"
  | .helpAsked => ""
  | .versionAsked => ""

end UsageFault

namespace OptionRule

def takesValue (rule : OptionRule) : Bool :=
  match rule.role with
  | .single => true
  | .repeated => true
  | _ => false

/-- The option may take the value. -/
def allows (value : String) (rule : OptionRule) : Bool :=
  rule.choices.isEmpty || rule.choices.contains value

end OptionRule

/-- A word of the command line by its form. -/
inductive ArgumentWord where
  /-- Two hyphens alone. -/
  | escape
  | long (name : String) (value : Option String)
  | short (letters : List Char)
  | plain
deriving DecidableEq

/-- The form of a word. A hyphen alone is a plain word. -/
def ArgumentWord.ofString (word : String) : ArgumentWord :=
  match word.toList with
  | ['-', '-'] => .escape
  | '-' :: '-' :: rest =>
    let name := String.ofList (rest.takeWhile (· != '='))
    match rest.dropWhile (· != '=') with
    | [] => .long name none
    | _ :: value => .long name (some (String.ofList value))
  | '-' :: letter :: rest => .short (letter :: rest)
  | _ => .plain

/-- What was read of the words so far. -/
structure Arguments where
  /-- The options that have taken effect, with their values; a switch has the empty value. -/
  given : List (String × String)
  /-- An option that has not taken effect, with its value once that was read. -/
  pending : Option (OptionRule × Option String)
  /-- The options have ended. -/
  isEscaped : Bool
deriving DecidableEq

namespace Arguments

def empty : Arguments := ⟨[], none, false⟩

/-- The values of an option, in order. -/
def values (name : String) (read : Arguments) : List String :=
  read.given.filterMap fun option => if option.1 == name then some option.2 else none

def value? (name : String) (read : Arguments) : Option String := (read.values name).head?

def has (name : String) (read : Arguments) : Bool := read.given.any (·.1 == name)

/-- The next word is the value of an option. -/
def isAwaiting (read : Arguments) : Bool :=
  match read.pending with
  | some (_, none) => true
  | _ => false

/-- An option takes effect. -/
def accept (rule : OptionRule) (value : String) (read : Arguments) :
    Except UsageFault Arguments :=
  if rule.role != .repeated && read.has rule.name then .error (.repeatedArgument rule.name)
  else if rule.allows value then .ok { read with given := read.given ++ [(rule.name, value)] }
  else .error (.invalidValue rule.name)

/-- The pending option takes effect. -/
def resolve (read : Arguments) : Except UsageFault Arguments :=
  match read.pending with
  | none => .ok read
  | some (rule, none) => .error (.invalidValue rule.name)
  | some (rule, some value) => { read with pending := none }.accept rule value

/-- An option without a value takes effect. -/
def raise (rule : OptionRule) (read : Arguments) : Except UsageFault Arguments := do
  let read ← read.resolve
  match rule.role with
  | .help => throw .helpAsked
  | .version => throw .versionAsked
  | _ => read.accept rule ""

/-- Reads an option by its name. -/
def readLong (command : CommandRule) (word name : String) (value : Option String)
    (read : Arguments) : Except UsageFault Arguments :=
  match command.options.find? (·.name == name) with
  | none => .error (.unknownArgument word)
  | some rule =>
    if rule.takesValue then do
      let read ← read.resolve
      match value with
      | some value => read.accept rule value
      | none => return { read with pending := some (rule, none) }
    else match value with
      | some _ => .error (.unwantedValue name)
      | none => read.raise rule

/-- Reads options by their letters. A value is what follows the letter in its word, or else the next
word. -/
def readShort (command : CommandRule) (word : String) :
    List Char → Arguments → Except UsageFault Arguments
  | [], read => .ok read
  | letter :: rest, read => match command.options.find? (·.letter == some letter) with
    | none => .error (.unknownArgument word)
    | some rule =>
      if rule.takesValue then do
        let read ← read.resolve
        match rest with
        | [] => return { read with pending := some (rule, none) }
        | _ => read.accept rule (String.ofList rest)
      else do
        let read ← read.raise rule
        readShort command word rest read

/-- Why a word is neither an option nor a value. -/
def strayWord (command : CommandRule) (word : String) (read : Arguments) : UsageFault :=
  if command.commands.isEmpty || (read.isEscaped && command.commands.contains word) then
    .unknownArgument word
  else .unknownCommand word

/-- Reads a word that is no command. -/
def readWord (command : CommandRule) (word : String) (read : Arguments) :
    Except UsageFault Arguments :=
  if read.isEscaped then .error (read.strayWord command word)
  else match ArgumentWord.ofString word with
    | .escape => .ok { read with isEscaped := true }
    | .long name value => read.readLong command word name value
    | .short letters => readShort command word letters read
    | .plain => match read.pending with
      | some (rule, none) => .ok { read with pending := some (rule, some word) }
      | _ => .error (read.strayWord command word)

/-- Reads words up to the next command, which comes with the words behind it. -/
def scan (command : CommandRule) :
    Arguments → List String → Except UsageFault (Arguments × Option (String × List String))
  | read, [] => .ok (read, none)
  | read, word :: rest =>
    if !read.isEscaped && !read.isAwaiting && command.commands.contains word then
      .ok (read, some (word, rest))
    else do
      let read ← read.readWord command word
      scan command read rest

/-- Everything required was given. -/
def checkRequired (command : CommandRule) (read : Arguments) : Except UsageFault Unit :=
  match command.required.find? fun name => !read.has name with
  | some name => .error (.missingArgument name)
  | none => .ok ()

/-- Reads all words behind a command that no other may follow. -/
def readAll (command : CommandRule) (words : List String) : Except UsageFault Arguments := do
  let (read, _) ← scan command empty words
  let read ← read.resolve
  read.checkRequired command
  return read

end Arguments

end EventCorrelation
