import EventCorrelation.Identifier.Basic
import EventCorrelation.Json.Printer
import EventCorrelation.Json.Tree
import EventCorrelation.Text.Quoted
import EventCorrelation.Time.Timestamp

/-!
# Decoding JSON texts

Decoders of plain values from trees. Every decoder is told where the tree comes from and, for a
text, how many levels of brackets may still be opened. Skipping a value has no such limit and is
content with numbers and strings that a reader would refuse.
-/

namespace EventCorrelation.Json

/-- What a decoder wants to find. -/
inductive Expectation where
  | string
  | bool
  | unit
  | sequence
  | time
  | variantName
  /-- What names a variant: its name, or an object with the name as its only member. -/
  | variantValue
  | singleMember
  | record (name : String)
  | recordFields (name : String) (count : Nat)
  | sequenceItems (count : Nat)
  | fewerItems
  | variants (name : String)
deriving DecidableEq

/-- Why a text does not decode. -/
inductive Complaint where
  | text (fault : Fault)
  | wrongType (found : Found) (wanted : Expectation)
  /-- The type is right, but not every value of it will do. -/
  | wrongValue (found : Found) (wanted : Expectation)
  | wrongLength (length : Nat) (wanted : Expectation)
  | missingField (name : String)
  | duplicateField (name : String)
  | unknownVariant (name : String) (known : List String)
  | identifier (fault : Identifier.Fault)
  | time (fault : Timestamp.Fault)
deriving DecidableEq

namespace Expectation

/-- A number of elements in words. -/
def elements (count : Nat) : String :=
  toString count ++ (if count = 1 then " element" else " elements")

def phrase : Expectation → String
  | .string => "a string"
  | .bool => "a boolean"
  | .unit => "unit"
  | .sequence => "a sequence"
  | .time => "an RFC 3339 formatted date and time string"
  | .variantName => "variant identifier"
  | .variantValue => "string or map"
  | .singleMember => "map with a single key"
  | .record name => "struct " ++ name
  | .recordFields name count => "struct " ++ name ++ " with " ++ elements count
  | .sequenceItems count => elements count ++ " in sequence"
  | .fewerItems => "fewer elements in array"
  | .variants name => "adjacently tagged enum " ++ name

end Expectation

namespace Found

def phrase : Found → String
  | .null => "null"
  | .bool value => "boolean `" ++ String.ofList (printBool value) ++ "`"
  | .number (.integer value) => "integer `" ++ toString value ++ "`"
  | .number (.binary value) =>
      "floating point `" ++ String.ofList (Decimal.write floatLayout value) ++ "`"
  | .string content => "string " ++ Text.quoted content
  | .sequence => "sequence"
  | .map => "map"

end Found

namespace Complaint

/-- Known names in words. -/
def oneOf : List String → String
  | [] => "there are no variants"
  | [only] => "expected `" ++ only ++ "`"
  | [first, second] => "expected `" ++ first ++ "` or `" ++ second ++ "`"
  | names => "expected one of " ++ ", ".intercalate (names.map fun name => "`" ++ name ++ "`")

def message : Complaint → String
  | .text fault => fault.message
  | .wrongType found wanted =>
      "invalid type: " ++ found.phrase ++ ", expected " ++ wanted.phrase
  | .wrongValue found wanted =>
      "invalid value: " ++ found.phrase ++ ", expected " ++ wanted.phrase
  | .wrongLength length wanted =>
      "invalid length " ++ toString length ++ ", expected " ++ wanted.phrase
  | .missingField name => "missing field `" ++ name ++ "`"
  | .duplicateField name => "duplicate field `" ++ name ++ "`"
  | .unknownVariant name known => "unknown variant `" ++ name ++ "`, " ++ oneOf known
  | .identifier fault => fault.message
  | .time fault => fault.message

end Complaint

namespace Stop

/-- The fault that a reader of all items of an array meets at their end. -/
def arrayReading : Stop → Except Fault Unit
  | .closed => .ok ()
  | .endOfText => .error (.endOfText .list)
  | .afterSeparator => .error .trailingSeparator
  | .endAfterSeparator => .error (.endOfText .value)
  | _ => .error .missingListSeparator

/-- The fault that a reader of a fixed number of items meets behind the last of them. -/
def arrayEnding : Stop → Except Fault Unit
  | .closed => .ok ()
  | .endOfText => .error (.endOfText .list)
  | .afterSeparator => .error .trailingSeparator
  | _ => .error .trailingCharacters

/-- The fault that a skipper of an array meets at its end. -/
def arraySkipping : Stop → Except Fault Unit
  | .closed => .ok ()
  | .endOfText => .error (.endOfText .list)
  | .afterSeparator => .error .missingValue
  | .endAfterSeparator => .error (.endOfText .value)
  | _ => .error .missingListSeparator

/-- The fault that a reader of all members of an object meets at their end. -/
def objectReading : Stop → Except Fault Unit
  | .closed => .ok ()
  | .endOfText => .error (.endOfText .object)
  | .afterSeparator => .error .trailingSeparator
  | .endAfterSeparator => .error (.endOfText .value)
  | .badKey => .error .keyNotString
  | .brokenKey faults => .error faults.reading
  | _ => .error .missingObjectSeparator

/-- The fault that a skipper of an object meets at its end. -/
def objectSkipping : Stop → Except Fault Unit
  | .closed => .ok ()
  | .endOfText => .error (.endOfText .object)
  | .afterSeparator => .error .keyNotString
  | .endAfterSeparator => .error (.endOfText .object)
  | .badKey => .error .keyNotString
  | .brokenKey faults => .error faults.skipping
  | _ => .error .missingObjectSeparator

end Stop

/-- Where a tree comes from. -/
inductive Origin where
  /-- A text that is being read. -/
  | text
  /-- A part of a text or of a value that had to be kept until its type was known. -/
  | kept
  /-- A value. -/
  | value
deriving DecidableEq

/-- How a tree is looked at: where it comes from, and how many levels may still be opened. -/
structure Reading where
  origin : Origin
  levels : Nat
deriving DecidableEq

/-- A decoder of trees. -/
abbrev Decoder (α : Type) := Reading → Tree → Except Complaint α

/-- The number of levels that a text may open. -/
def nestingLimit : Nat := 127

/-- Opens a bracket; only those of a text are counted. -/
def enter (reading : Reading) : Except Complaint Reading :=
  match reading.origin, reading.levels with
  | .text, 0 => .error (.text .tooDeep)
  | .text, levels + 1 => .ok ⟨.text, levels⟩
  | _, _ => .ok reading

namespace Tree

/-- What stands in the text, if that much of it is sound. -/
def found : Tree → Except Fault Found
  | .null => .ok .null
  | .bool value => .ok (.bool value)
  | .number value => value.map .number
  | .string content => content.map .string
  | .array _ _ => .ok .sequence
  | .object _ _ => .ok .map
  | .broken _ faults => .error faults.reading

/-- The complaint about a value of the wrong type; a fault in the value goes first. -/
def refuse (wanted : Expectation) (tree : Tree) : Complaint :=
  match tree.found with
  | .error fault => .text fault
  | .ok found => .wrongType found wanted

mutual

/-- Passes over a value. -/
def skip : Tree → Except Fault Unit
  | .array items stop => do
    skipItems items
    stop.arraySkipping
  | .object members stop => do
    skipMembers members
    stop.objectSkipping
  | .broken _ faults => .error faults.skipping
  | _ => .ok ()
termination_by structural tree => tree

def skipItems : List Tree → Except Fault Unit
  | [] => .ok ()
  | item :: rest => do
    item.skip
    skipItems rest
termination_by structural items => items

def skipMembers : List (Except Fault String × Tree) → Except Fault Unit
  | [] => .ok ()
  | (_, value) :: rest => do
    value.skip
    skipMembers rest
termination_by structural members => members

end

end Tree

def decodeString : Decoder String := fun _ tree =>
  match tree with
  | .string content => content.mapError .text
  | tree => .error (tree.refuse .string)

def decodeBool : Decoder Bool := fun _ tree =>
  match tree with
  | .bool value => .ok value
  | tree => .error (tree.refuse .bool)

def decodeIdentifier (kind : EntityKind) : Decoder (Identifier kind) := fun reading tree => do
  let text ← decodeString reading tree
  (Identifier.parse kind text).mapError .identifier

def decodeTime : Decoder Timestamp := fun _ tree =>
  match tree with
  | .string content => do
    let text ← content.mapError .text
    (Timestamp.parse text).mapError .time
  | tree => .error (tree.refuse .time)

/-- Decodes every item of an array. -/
def decodeList {α : Type} (item : Decoder α) : Decoder (List α) := fun reading tree =>
  match tree with
  | .array items stop => do
    let reading ← enter reading
    let values ← items.mapM (item reading)
    stop.arrayReading.mapError .text
    return values
  | tree => .error (tree.refuse .sequence)

mutual

/-- Decodes any value. The members of an object are sorted by name, and the last of each name
stays. -/
def decodeJson (reading : Reading) : Tree → Except Complaint Json
  | .null => .ok .null
  | .bool value => .ok (.bool value)
  | .number value => (value.map .number).mapError .text
  | .string content => (content.map .string).mapError .text
  | .array items stop => do
    let reading ← enter reading
    let values ← decodeJsonItems reading items
    stop.arrayReading.mapError .text
    return .array values
  | .object members stop => do
    let reading ← enter reading
    let values ← decodeJsonMembers reading members
    stop.objectReading.mapError .text
    return .object (sortMembers values)
  | .broken _ faults => .error (.text faults.reading)
termination_by structural tree => tree

def decodeJsonItems (reading : Reading) : List Tree → Except Complaint (List Json)
  | [] => .ok []
  | item :: rest => do
    let value ← decodeJson reading item
    let values ← decodeJsonItems reading rest
    return value :: values
termination_by structural items => items

def decodeJsonMembers (reading : Reading) :
    List (Except Fault String × Tree) → Except Complaint (List (String × Json))
  | [] => .ok []
  | (name, value) :: rest => do
    let name ← name.mapError .text
    let value ← decodeJson reading value
    let values ← decodeJsonMembers reading rest
    return (name, value) :: values
termination_by structural members => members

end

/-- Decodes a whole text: one value, and nothing but white space behind it. -/
def decode {α : Type} (decoder : Decoder α) (text : List UInt8) : Except Complaint α := do
  let (tree, rest) := Tree.ofText text
  let value ← decoder ⟨.text, nestingLimit⟩ tree
  match rest with
  | none => throw (.text (.endOfText .value))
  | some rest =>
    if (skipSpace rest).isEmpty then return value else throw (.text .trailingCharacters)

/-- Decodes a value. -/
def decodeValue {α : Type} (decoder : Decoder α) (value : Json) : Except Complaint α :=
  decoder ⟨.value, 0⟩ (.ofJson value)

end EventCorrelation.Json
