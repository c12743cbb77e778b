import EventCorrelation.Decimal.Shortest

/-!
# JSON values

Values as they are stored and printed. An object keeps its members in the order given: entities
list theirs in declaration order, while values read from a text have theirs sorted by name, each
name once.
-/

namespace EventCorrelation

/-- A number: an integer that fits 64 bits, with or without a sign, or a floating point number. -/
inductive JsonNumber where
  | integer (value : Int)
  | binary (value : Binary64)
deriving DecidableEq

inductive Json where
  | null
  | bool (value : Bool)
  | number (value : JsonNumber)
  | string (text : String)
  | array (items : List Json)
  | object (members : List (String × Json))

namespace Json

mutual

/-- Decides whether two values are equal. -/
def decEq : (left right : Json) → Decidable (left = right)
  | .null, right => match right with
    | .null => isTrue rfl
    | .bool _ | .number _ | .string _ | .array _ | .object _ => isFalse nofun
  | .bool left, right => match right with
    | .bool right => decidable_of_iff (left = right) (by simp)
    | .null | .number _ | .string _ | .array _ | .object _ => isFalse nofun
  | .number left, right => match right with
    | .number right => decidable_of_iff (left = right) (by simp)
    | .null | .bool _ | .string _ | .array _ | .object _ => isFalse nofun
  | .string left, right => match right with
    | .string right => decidable_of_iff (left = right) (by simp)
    | .null | .bool _ | .number _ | .array _ | .object _ => isFalse nofun
  | .array left, right => match right with
    | .array right =>
      have := decEqItems left right
      decidable_of_iff (left = right) (by simp)
    | .null | .bool _ | .number _ | .string _ | .object _ => isFalse nofun
  | .object left, right => match right with
    | .object right =>
      have := decEqMembers left right
      decidable_of_iff (left = right) (by simp)
    | .null | .bool _ | .number _ | .string _ | .array _ => isFalse nofun
termination_by structural left => left

def decEqItems : (left right : List Json) → Decidable (left = right)
  | [], [] => isTrue rfl
  | [], _ :: _ => isFalse nofun
  | _ :: _, [] => isFalse nofun
  | left :: lefts, right :: rights =>
    have := decEq left right
    have := decEqItems lefts rights
    decidable_of_iff (left = right ∧ lefts = rights) (by simp)
termination_by structural left => left

def decEqMembers : (left right : List (String × Json)) → Decidable (left = right)
  | [], [] => isTrue rfl
  | [], _ :: _ => isFalse nofun
  | _ :: _, [] => isFalse nofun
  | (leftName, left) :: lefts, (rightName, right) :: rights =>
    have := decEq left right
    have := decEqMembers lefts rights
    decidable_of_iff ((leftName = rightName ∧ left = right) ∧ lefts = rights) (by simp)
termination_by structural left => left

end

instance : DecidableEq Json := decEq

/-- Sets a member of an object whose members are sorted by name; a later value replaces an
earlier one of the same name. -/
def insertMember (name : String) (value : Json) :
    List (String × Json) → List (String × Json)
  | [] => [(name, value)]
  | (head, headValue) :: rest =>
    if name < head then (name, value) :: (head, headValue) :: rest
    else if name = head then (name, value) :: rest
    else (head, headValue) :: insertMember name value rest

/-- The members sorted by name, the last value of each name. -/
def sortMembers (members : List (String × Json)) : List (String × Json) :=
  members.foldl (fun sorted member => insertMember member.1 member.2 sorted) []

/-- The value of a member. -/
def member? (name : String) : Json → Option Json
  | .object members => (members.find? (·.1 == name)).map (·.2)
  | _ => none

mutual

/-- The number of nested arrays and objects on the deepest way into the value. -/
def depth : Json → Nat
  | .array items => depthItems items + 1
  | .object members => depthMembers members + 1
  | _ => 0
termination_by structural value => value

def depthItems : List Json → Nat
  | [] => 0
  | item :: rest => max item.depth (depthItems rest)
termination_by structural items => items

def depthMembers : List (String × Json) → Nat
  | [] => 0
  | (_, value) :: rest => max value.depth (depthMembers rest)
termination_by structural members => members

end

mutual

/-- No floating point number occurs in the value, and every integer fits 64 bits. -/
def FloatFree : Json → Prop
  | .number (.integer value) => -9223372036854775808 ≤ value ∧ value < 18446744073709551616
  | .number (.binary _) => False
  | .array items => FloatFreeItems items
  | .object members => FloatFreeMembers members
  | _ => True
termination_by structural value => value

def FloatFreeItems : List Json → Prop
  | [] => True
  | item :: rest => item.FloatFree ∧ FloatFreeItems rest
termination_by structural items => items

def FloatFreeMembers : List (String × Json) → Prop
  | [] => True
  | (_, value) :: rest => value.FloatFree ∧ FloatFreeMembers rest
termination_by structural members => members

end

mutual

/-- Every object in the value has its members in strictly increasing order of their names. -/
def Sorted : Json → Prop
  | .array items => SortedItems items
  | .object members => (members.map (·.1)).Pairwise (· < ·) ∧ SortedMembers members
  | _ => True
termination_by structural value => value

def SortedItems : List Json → Prop
  | [] => True
  | item :: rest => item.Sorted ∧ SortedItems rest
termination_by structural items => items

def SortedMembers : List (String × Json) → Prop
  | [] => True
  | (_, value) :: rest => value.Sorted ∧ SortedMembers rest
termination_by structural members => members

end

end Json

end EventCorrelation
