import EventCorrelation.Json.Decoder

/-!
# Decoding records

A record is read from an object, whose members may come in any order and may include unknown ones,
or from an array that lists the fields in declaration order. The fields are checked one by one as
the text brings them; only then is the record built from them, so a missing field is the last thing
found wrong.
-/

namespace EventCorrelation.Json

/-- The fields of a record that a text has brought, by name. -/
abbrev Brought := List (String × Tree)

/-- A field of a record: its name, the decoder of its value, and its value if the text leaves it
out, unless it has to be there. -/
structure Field (α : Type) where
  name : String
  decoder : Decoder α
  absent : Option α

namespace Field

/-- The value of the field among those that the text has brought. -/
def get {α : Type} (field : Field α) (reading : Reading) (brought : Brought) : Except Complaint α :=
  match brought.lookup field.name with
  | some tree => field.decoder reading tree
  | none => match field.absent with
    | some value => .ok value
    | none => .error (.missingField field.name)

end Field

/-- What reading a text needs to know of a field. -/
structure FieldCheck where
  name : String
  check : Decoder Unit
  mayBeAbsent : Bool

/-- The check of a field. -/
def Field.toCheck {α : Type} (field : Field α) : FieldCheck :=
  ⟨field.name, fun reading tree => (field.decoder reading tree).map fun _ => (),
    field.absent.isSome⟩

/-- What a value is made of: the checks of its fields in declaration order, and the value itself
once they are brought. -/
structure Shape (α : Type) where
  fields : List FieldCheck
  build : Reading → Brought → Except Complaint α

/-- The shape of a single field. -/
def Field.toShape {α : Type} (field : Field α) : Shape α :=
  ⟨[field.toCheck], field.get⟩

/-- A value of fields is a function applied to one field after the other. -/
instance : Applicative Shape where
  pure value := ⟨[], fun _ _ => .ok value⟩
  seq function argument :=
    ⟨function.fields ++ (argument ()).fields, fun reading brought => do
      let apply ← function.build reading brought
      let value ← (argument ()).build reading brought
      return apply value⟩

/-- A field that has to be there. -/
def required {α : Type} (name : String) (decoder : Decoder α) : Shape α :=
  (Field.mk name decoder none).toShape

/-- A field that may be left out. -/
def optional {α : Type} (name : String) (decoder : Decoder α) (absent : α) : Shape α :=
  (Field.mk name decoder (some absent)).toShape

/-- A record: its name and its shape. -/
structure RecordReader (α : Type) where
  name : String
  shape : Shape α

/-- Reads members in text order. A repeated field is refused before its value is looked at. -/
def bringMembers (fields : List FieldCheck) (reading : Reading) (brought : Brought) :
    List (Except Fault String × Tree) → Except Complaint Brought
  | [] => .ok brought
  | (name, value) :: rest => do
    let name ← name.mapError .text
    match fields.find? (·.name == name) with
    | none =>
      value.skip.mapError .text
      bringMembers fields reading brought rest
    | some field =>
      if (brought.lookup name).isSome then throw (.duplicateField name)
      field.check reading value
      bringMembers fields reading ((name, value) :: brought) rest

/-- The complaint about items beyond the fields of a record: where a text is read they are trailing
characters, elsewhere they are counted. -/
def surplus (origin : Origin) (count surplus : Nat) : Complaint :=
  match origin with
  | .text => .text .trailingCharacters
  | .kept => .wrongLength (count + surplus) (.sequenceItems count)
  | .value => .wrongLength (count + surplus) .fewerItems

/-- Reads items in declaration order. -/
def bringItems (name : String) (count : Nat) (reading : Reading) (stop : Stop)
    (brought : Brought) : List FieldCheck → List Tree → Except Complaint Brought
  | [], [] => do
    stop.arrayEnding.mapError .text
    return brought
  | [], items => .error (surplus reading.origin count items.length)
  | field :: fields, [] => do
    stop.arrayReading.mapError .text
    if field.mayBeAbsent then bringItems name count reading stop brought fields []
    else throw (.wrongLength (count - (fields.length + 1)) (.recordFields name count))
  | field :: fields, item :: items => do
    field.check reading item
    bringItems name count reading stop ((field.name, item) :: brought) fields items

/-- Decodes a record. -/
def RecordReader.decode {α : Type} (reader : RecordReader α) : Decoder α := fun reading tree =>
  match tree with
  | .object members stop => do
    let reading ← enter reading
    let brought ← bringMembers reader.shape.fields reading [] members
    stop.objectReading.mapError .text
    reader.shape.build reading brought
  | .array items stop => do
    let reading ← enter reading
    let brought ← bringItems reader.name reader.shape.fields.length reading stop []
      reader.shape.fields items
    reader.shape.build reading brought
  | tree => .error (tree.refuse (.record reader.name))

end EventCorrelation.Json
