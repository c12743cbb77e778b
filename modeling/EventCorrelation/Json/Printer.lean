import EventCorrelation.Json.Basic
import EventCorrelation.Json.Text

/-!
# JSON texts of values

The compact text, without any space, and the indented text, with two spaces for each level and
with empty arrays and objects kept on one line.
-/

namespace EventCorrelation

namespace Json

/-- Floating point numbers are positional from `1e-5` to below `1e16`; beyond, the exponent shows
its sign. -/
def floatLayout : Decimal.Layout := ⟨-5, 15, true⟩

/-- The text of a number. -/
def printNumber : JsonNumber → List Char
  | .integer value => (toString value).toList
  | .binary value => Decimal.write floatLayout value

/-- The word for a truth value. -/
def printBool (value : Bool) : List Char :=
  if value then ['t', 'r', 'u', 'e'] else ['f', 'a', 'l', 's', 'e']

mutual

/-- The compact text. -/
def print : Json → List Char
  | .null => ['n', 'u', 'l', 'l']
  | .bool value => printBool value
  | .number value => printNumber value
  | .string text => quote text
  | .array items => '[' :: printItems items ++ [']']
  | .object members => '{' :: printMembers members ++ ['}']
termination_by structural value => value

/-- Items with commas between them. -/
def printItems : List Json → List Char
  | [] => []
  | item :: rest => item.print ++ printMoreItems rest
termination_by structural items => items

/-- Items with a comma in front of each. -/
def printMoreItems : List Json → List Char
  | [] => []
  | item :: rest => ',' :: item.print ++ printMoreItems rest
termination_by structural items => items

/-- Members with commas between them. -/
def printMembers : List (String × Json) → List Char
  | [] => []
  | (name, value) :: rest => quote name ++ ':' :: value.print ++ printMoreMembers rest
termination_by structural members => members

/-- Members with a comma in front of each. -/
def printMoreMembers : List (String × Json) → List Char
  | [] => []
  | (name, value) :: rest =>
    ',' :: quote name ++ ':' :: value.print ++ printMoreMembers rest
termination_by structural members => members

end

/-- A line break and the indentation of a level. -/
def newline (level : Nat) : List Char :=
  '\n' :: List.replicate (2 * level) ' '

mutual

/-- The indented text of a value that starts on a line of the given level. -/
def printIndented (level : Nat) : Json → List Char
  | .null => ['n', 'u', 'l', 'l']
  | .bool value => printBool value
  | .number value => printNumber value
  | .string text => quote text
  | .array [] => ['[', ']']
  | .array (item :: rest) =>
    '[' :: newline (level + 1) ++ item.printIndented (level + 1) ++
      indentMoreItems (level + 1) rest ++ newline level ++ [']']
  | .object [] => ['{', '}']
  | .object ((name, value) :: rest) =>
    '{' :: newline (level + 1) ++ quote name ++ ':' :: ' ' :: value.printIndented (level + 1) ++
      indentMoreMembers (level + 1) rest ++ newline level ++ ['}']
termination_by structural value => value

/-- Items on lines of their own, each behind a comma. -/
def indentMoreItems (level : Nat) : List Json → List Char
  | [] => []
  | item :: rest =>
    ',' :: newline level ++ item.printIndented level ++ indentMoreItems level rest
termination_by structural items => items

/-- Members on lines of their own, each behind a comma. -/
def indentMoreMembers (level : Nat) : List (String × Json) → List Char
  | [] => []
  | (name, value) :: rest =>
    ',' :: newline level ++ quote name ++ ':' :: ' ' :: value.printIndented level ++
      indentMoreMembers level rest
termination_by structural members => members

end

/-- The compact text. -/
def compact (value : Json) : String := String.ofList value.print

/-- The indented text. -/
def indented (value : Json) : String := String.ofList (value.printIndented 0)

end Json

end EventCorrelation
