import EventCorrelation.Json.Printer
import EventCorrelation.Yaml.Scalar

/-!
# YAML texts of values

The block layout: every member and every item on lines of its own, levels two columns apart, the
items of a member in the column of its key. Empty arrays and objects are written in brackets. A key
that is long or has several lines stands behind a question mark.
-/

namespace EventCorrelation.Yaml

/-- Floating point numbers are positional in the same range as in JSON; the sign of the exponent
shows only if it is negative. -/
def floatLayout : Decimal.Layout := ⟨-5, 15, false⟩

/-- The text with a line break at its end, unless it already ends a line. -/
def endLine (text : List Char) : List Char :=
  if text.getLast?.any isBreak then text else text ++ ['\n']

/-- A value without items or members of its own. -/
def scalar? (indent : Nat) : Json → Option (List Char)
  | .null => some ['n', 'u', 'l', 'l']
  | .bool value => some (Json.printBool value)
  | .number (.integer value) => some (toString value).toList
  | .number (.binary value) => some (Decimal.write floatLayout value)
  | .string text => some (writeString indent text)
  | .array [] => some ['[', ']']
  | .object [] => some ['\x7b', '\x7d']
  | .array (_ :: _) => none
  | .object (_ :: _) => none

/-- Where a value stands: behind a short key, or behind the mark of an item or of the value of a
long key. -/
inductive Place where
  | key
  | mark
deriving DecidableEq

/-- The key of a member in a column, with the colon. -/
def writeKey (indent : Nat) (name : String) : List Char :=
  if isSimpleKey name then writeString (indent + 2) name ++ [':']
  else '?' :: ' ' :: endLine (writeString (indent + 2) name) ++ indentation indent ++ [':']

/-- Where the value of a member stands. -/
def placeBehind (name : String) : Place := if isSimpleKey name then .key else .mark

/-- What stands between a mark and the items or members of a value: behind a key they start on a
line of their own. -/
def lead (place : Place) (indent : Nat) : List Char :=
  match place with
  | .key => '\n' :: indentation indent
  | .mark => [' ']

/-- The column of the items behind a mark in a column. -/
def itemColumn (place : Place) (indent : Nat) : Nat :=
  match place with
  | .key => indent
  | .mark => indent + 2

mutual

/-- A value behind a mark or a key that stands in a column. -/
def printValue (place : Place) (indent : Nat) : Json → List Char
  | .array (item :: rest) =>
    let column := itemColumn place indent
    lead place column ++ '-' :: printValue .mark column item ++ printItems column rest
  | .object ((name, value) :: rest) =>
    let column := indent + 2
    lead place column ++ writeKey column name ++ printValue (placeBehind name) column value ++
      printMembers column rest
  | value => endLine (' ' :: (scalar? (indent + 2) value).getD [])
termination_by structural value => value

/-- Items on lines of their own. -/
def printItems (indent : Nat) : List Json → List Char
  | [] => []
  | item :: rest => indentation indent ++ '-' :: printValue .mark indent item ++ printItems indent rest
termination_by structural items => items

/-- Members on lines of their own. -/
def printMembers (indent : Nat) : List (String × Json) → List Char
  | [] => []
  | (name, value) :: rest =>
    indentation indent ++ writeKey indent name ++ printValue (placeBehind name) indent value ++
      printMembers indent rest
termination_by structural members => members

end

/-- The YAML text of a value. -/
def print : Json → String
  | .array (item :: rest) => String.ofList (printItems 0 (item :: rest))
  | .object (member :: rest) => String.ofList (printMembers 0 (member :: rest))
  | value => String.ofList (endLine ((scalar? 2 value).getD []))

end EventCorrelation.Yaml
