import EventCorrelation.Json.Basic

/-!
# Loose access

The members of an object as texts, numbers, flags and lists. A member that is missing or of
another kind counts as absent. The other way round, texts, numbers, flags and lists stand for the
values that they are.
-/

namespace EventCorrelation.Json

instance : Coe String Json := ⟨.string⟩

instance : Coe Bool Json := ⟨.bool⟩

instance : Coe Int Json := ⟨fun value => .number (.integer value)⟩

instance : Coe Nat Json := ⟨fun value => .number (.integer value)⟩

instance : Coe (List Json) Json := ⟨.array⟩

instance : Coe (List String) Json := ⟨fun texts => .array (texts.map .string)⟩

instance : Coe (Option Json) Json := ⟨fun value => value.getD .null⟩

instance : Coe (Option String) Json := ⟨fun text => text.elim .null .string⟩

/-- A member, or null. -/
def get (name : String) (value : Json) : Json := (value.member? name).getD .null

/-- The items of an array. -/
def toItems : Json → List Json
  | .array items => items
  | _ => []

def toText? : Json → Option String
  | .string text => some text
  | _ => none

def toInt? : Json → Option Int
  | .number (.integer value) => some value
  | _ => none

def text? (name : String) (value : Json) : Option String := (value.get name).toText?

def text (name : String) (value : Json) (absent : String := "") : String :=
  (value.text? name).getD absent

def items (name : String) (value : Json) : List Json := (value.get name).toItems

def texts (name : String) (value : Json) : List String := (value.items name).filterMap toText?

def int? (name : String) (value : Json) : Option Int := (value.get name).toInt?

def int (name : String) (value : Json) (absent : Int := 0) : Int := (value.int? name).getD absent

def nat (name : String) (value : Json) (absent : Nat := 0) : Nat :=
  (value.int? name).elim absent Int.toNat

def flag (name : String) (value : Json) (absent : Bool := false) : Bool :=
  match value.get name with
  | .bool flag => flag
  | _ => absent

end EventCorrelation.Json
