import EventCorrelation.Json.Literal
import EventCorrelation.Json.Text

/-!
# Trees of JSON texts

What a text says, member by member and in its own order, up to the first place where it stops being
JSON. A reader of typed values walks the tree in text order, so the first thing wrong with the text
wins, whether it is a wrong type or a fault of the text itself. Readers and skippers meet different
faults at the same place; the tree holds both.
-/

namespace EventCorrelation.Json

/-- What stands somewhere in a text, without a look into brackets. -/
inductive Found where
  | null
  | bool (value : Bool)
  | number (value : JsonNumber)
  | string (content : String)
  | sequence
  | map
deriving DecidableEq

/-- How the items of an array or the members of an object end. -/
inductive Stop where
  /-- By the closing bracket. -/
  | closed
  /-- The text ends where a separator or the closing bracket should stand. -/
  | endOfText
  /-- Something else stands where a separator or the closing bracket should. -/
  | unseparated
  /-- The closing bracket follows a separator. -/
  | afterSeparator
  /-- The text ends behind a separator. -/
  | endAfterSeparator
  /-- A member does not begin with a quote but with something else. -/
  | badKey
  /-- A member's name is a broken string. -/
  | brokenKey (faults : FaultPair)
  /-- The last item or member is broken, and nothing behind it is looked at. -/
  | unreached

/-- What a broken value begins with. -/
inductive BrokenStart where
  /-- The text ends in front of the value, or the colon in front of it is missing. -/
  | nothing
  | quote
  | other
deriving DecidableEq

inductive Tree where
  | null
  | bool (value : Bool)
  /-- A well-formed number; it may still be out of range. -/
  | number (value : Except Fault JsonNumber)
  /-- A string that ends; its content may still be faulty. -/
  | string (content : Except Fault String)
  | array (items : List Tree) (stop : Stop)
  | object (members : List (Except Fault String × Tree)) (stop : Stop)
  | broken (start : BrokenStart) (faults : FaultPair)

/-- The same fault for readers and skippers. -/
def FaultPair.both (fault : Fault) : FaultPair := ⟨fault, fault⟩

/-- The text behind white space. -/
def skipSpace : List UInt8 → List UInt8
  | [] => []
  | byte :: rest =>
    if byte = 0x20 ∨ byte = 0x0A ∨ byte = 0x09 ∨ byte = 0x0D then skipSpace rest else byte :: rest

/-- A string behind its opening quote. -/
def scanString (text : List UInt8) :
    Except FaultPair (Except Fault String × List UInt8) :=
  match skipString text with
  | .ok rest => .ok ((readString text).map (·.1), rest)
  | .error skipping => match readString text with
    | .ok _ => .error (.both skipping)
    | .error reading => .error ⟨reading, skipping⟩

/-- The rest of a word whose first letter is read, and the text behind it. -/
def scanWord : List UInt8 → List UInt8 → Except Fault (List UInt8)
  | [], rest => .ok rest
  | _ :: _, [] => .error (.endOfText .value)
  | letter :: letters, byte :: rest =>
    if byte = letter then scanWord letters rest else .error .badWord

/-- A tree, and the text behind it unless the tree is broken. -/
abbrev Scan := Tree × Option (List UInt8)

/-- A scan that broke. -/
def Scan.broken (start : BrokenStart) (faults : FaultPair) : Scan := (.broken start faults, none)

/-- A word that stands for a value. -/
def scanConstant (tree : Tree) (letters text : List UInt8) : Scan :=
  match scanWord letters text with
  | .error fault => .broken .other (.both fault)
  | .ok rest => (tree, some rest)

/-- Where in a pair of brackets a scan stands: behind the opening bracket or behind an item. -/
inductive Place where
  | first
  | later

/-- What stands in front of the next item of an array: the text of the item, or how the items
end. -/
def nextItem (place : Place) (text : List UInt8) :
    Except (Stop × Option (List UInt8)) (List UInt8) :=
  match place, skipSpace text with
  | _, [] => .error (.endOfText, none)
  | _, 0x5D :: rest => .error (.closed, some rest)
  | .first, text => .ok text
  | .later, 0x2C :: rest => match skipSpace rest with
    | [] => .error (.endAfterSeparator, none)
    | 0x5D :: _ => .error (.afterSeparator, none)
    | text => .ok text
  | .later, _ => .error (.unseparated, none)

/-- What stands in front of the next member of an object: the text behind the opening quote of its
name, or how the members end. -/
def nextMember (place : Place) (text : List UInt8) :
    Except (Stop × Option (List UInt8)) (List UInt8) :=
  match place, skipSpace text with
  | _, [] => .error (.endOfText, none)
  | _, 0x7D :: rest => .error (.closed, some rest)
  | .first, 0x22 :: rest => .ok rest
  | .first, _ => .error (.badKey, none)
  | .later, 0x2C :: rest => match skipSpace rest with
    | [] => .error (.endAfterSeparator, none)
    | 0x22 :: rest => .ok rest
    | 0x7D :: _ => .error (.afterSeparator, none)
    | _ => .error (.badKey, none)
  | .later, _ => .error (.unseparated, none)

/-- The text behind the colon of a member. -/
def scanColon (text : List UInt8) : Except Fault (List UInt8) :=
  match skipSpace text with
  | [] => .error (.endOfText .object)
  | 0x3A :: rest => .ok rest
  | _ => .error .missingColon

mutual

/-- Scans one value. Fuel is spent at each value and in front of each item; no byte of the text is
behind more than two of these, so twice its length is enough. -/
def scan : Nat → List UInt8 → Scan
  | 0, _ => .broken .nothing (.both (.endOfText .value))
  | fuel + 1, text => match skipSpace text with
    | [] => .broken .nothing (.both (.endOfText .value))
    | 0x6E :: rest => scanConstant .null [0x75, 0x6C, 0x6C] rest
    | 0x74 :: rest => scanConstant (.bool true) [0x72, 0x75, 0x65] rest
    | 0x66 :: rest => scanConstant (.bool false) [0x61, 0x6C, 0x73, 0x65] rest
    | 0x22 :: rest => match scanString rest with
      | .error faults => .broken .quote faults
      | .ok (content, rest) => (.string content, some rest)
    | 0x5B :: rest =>
      let (items, stop, rest) := scanItems fuel .first rest
      (.array items stop, rest)
    | 0x7B :: rest =>
      let (members, stop, rest) := scanMembers fuel .first rest
      (.object members stop, rest)
    | byte :: rest =>
      if byte = 0x2D ∨ (Literal.digit? byte).isSome then
        match Literal.read (byte :: rest) with
        | .error faults => .broken .other faults
        | .ok (literal, rest) => (.number literal.value, some rest)
      else .broken .other (.both .missingValue)

/-- Scans the items of an array behind the opening bracket or behind an item. -/
def scanItems : Nat → Place → List UInt8 → List Tree × Stop × Option (List UInt8)
  | 0, _, _ => ([], .endOfText, none)
  | fuel + 1, place, text => match nextItem place text with
    | .error (stop, rest) => ([], stop, rest)
    | .ok text => match scan fuel text with
      | (item, none) => ([item], .unreached, none)
      | (item, some rest) =>
        let (items, stop, rest) := scanItems fuel .later rest
        (item :: items, stop, rest)

/-- Scans the members of an object behind the opening bracket or behind a member. A missing colon
breaks the member's value. -/
def scanMembers : Nat → Place → List UInt8 →
    List (Except Fault String × Tree) × Stop × Option (List UInt8)
  | 0, _, _ => ([], .endOfText, none)
  | fuel + 1, place, text => match nextMember place text with
    | .error (stop, rest) => ([], stop, rest)
    | .ok text => match scanString text with
      | .error faults => ([], .brokenKey faults, none)
      | .ok (name, rest) => match scanColon rest with
        | .error fault => ([(name, .broken .nothing (.both fault))], .unreached, none)
        | .ok rest => match scan fuel rest with
          | (value, none) => ([(name, value)], .unreached, none)
          | (value, some rest) =>
            let (members, stop, rest) := scanMembers fuel .later rest
            ((name, value) :: members, stop, rest)

end

/-- The tree of the value in front of a text. -/
def Tree.ofText (text : List UInt8) : Scan :=
  scan (2 * text.length + 2) text

mutual

/-- The tree of a value that is no text. -/
def Tree.ofJson : Json → Tree
  | .null => .null
  | .bool value => .bool value
  | .number value => .number (.ok value)
  | .string text => .string (.ok text)
  | .array items => .array (ofItems items) .closed
  | .object members => .object (ofMembers members) .closed
termination_by structural value => value

def Tree.ofItems : List Json → List Tree
  | [] => []
  | item :: rest => ofJson item :: ofItems rest
termination_by structural items => items

def Tree.ofMembers : List (String × Json) → List (Except Fault String × Tree)
  | [] => []
  | (name, value) :: rest => (.ok name, ofJson value) :: ofMembers rest
termination_by structural members => members

end

end EventCorrelation.Json
