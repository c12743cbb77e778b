import EventCorrelation.Identifier.Base32

/-!
# Identifiers

Everything the service creates carries an identifier: a tag that names the kind of thing, an
underscore, and a 128-bit number in 26 base 32 digits. The upper 48 bits of the number are the
creation time in milliseconds, so identifiers of one kind sort by age, as numbers and as texts.
-/

namespace EventCorrelation

/-- The kinds of things that carry an identifier. -/
inductive EntityKind where
  | event
  | receiver
  | group
  | message
deriving DecidableEq

namespace EntityKind

/-- The tag in front of the underscore. -/
def tag : EntityKind → String
  | .event => "evt"
  | .receiver => "rcv"
  | .group => "grp"
  | .message => "msg"

def all : List EntityKind := [.event, .receiver, .group, .message]

/-- The kind with a tag. -/
def ofTag? (tag : String) : Option EntityKind := all.find? (·.tag == tag)

end EntityKind

/-- An identifier of a thing of the given kind. -/
structure Identifier (kind : EntityKind) where
  value : BitVec 128
deriving DecidableEq

abbrev EventId := Identifier .event
abbrev ReceiverId := Identifier .receiver
abbrev GroupId := Identifier .group
abbrev MessageId := Identifier .message

namespace Identifier

/-- The number of digits after the underscore. -/
def numeralWidth : Nat := 26

/-- Why a text is not an identifier of the wanted kind. -/
inductive Fault where
  | empty
  | missingSeparator
  | foreignTag (wanted : EntityKind) (found : String)
  | wrongLength
  | foreignDigit
deriving DecidableEq

namespace Fault

def message : Fault → String
  | .empty => "ID cannot be empty"
  | .missingSeparator => "ID missing underscore separator"
  | .foreignTag wanted found =>
      "invalid ID prefix: expected '" ++ wanted.tag ++ "', got '" ++ found ++ "'"
  | .wrongLength => "invalid ULID: invalid length"
  | .foreignDigit => "invalid ULID: invalid character"

/-- The text is tagged as a thing of another kind. -/
def isForeignTag : Fault → Bool
  | .foreignTag _ _ => true
  | _ => false

end Fault

variable {kind : EntityKind}

/-- The tag, an underscore and the numeral. -/
def text (id : Identifier kind) : String :=
  kind.tag ++ "_" ++ String.ofList (Base32.encode numeralWidth id.value.toNat)

/-- The creation time in milliseconds. -/
def millis (id : Identifier kind) : Nat :=
  id.value.toNat / Nat.pow 2 80

/-- Reads the numeral. The length is counted in bytes and checked first; digits beyond 128 bits
lose their excess. -/
def ofNumeral (numeral : String) : Except Fault (Identifier kind) :=
  if numeral.utf8ByteSize ≠ numeralWidth then .error .wrongLength
  else match Base32.decode? numeral.toList with
    | none => .error .foreignDigit
    | some value => .ok ⟨BitVec.ofNat 128 value⟩

/-- Reads an identifier of the wanted kind. The first underscore ends the tag. -/
def parse (kind : EntityKind) (text : String) : Except Fault (Identifier kind) :=
  if text.isEmpty then .error .empty
  else
    let tag := text.toList.takeWhile (· != '_')
    match text.toList.dropWhile (· != '_') with
    | [] => .error .missingSeparator
    | _ :: numeral =>
      if String.ofList tag ≠ kind.tag then .error (.foreignTag kind (String.ofList tag))
      else ofNumeral (String.ofList numeral)

/-- Identifiers are ordered by their numbers, and so by creation time first. -/
instance : Ord (Identifier kind) where
  compare left right := compare left.value.toNat right.value.toNat

end Identifier

end EventCorrelation
