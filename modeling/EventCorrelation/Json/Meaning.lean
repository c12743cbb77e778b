import EventCorrelation.Json.Basic

/-!
# Meanings

What an object means depends neither on the order of members with different names nor on a member
that a later one of the same name overwrites.
-/

namespace EventCorrelation.Json

/-- The values differ only in the order of the members of objects and in overwritten members. -/
inductive SameMeaning : Json → Json → Prop
  | refl (value : Json) : SameMeaning value value
  | symm {first second : Json} (same : SameMeaning first second) : SameMeaning second first
  | trans {first second third : Json} (front : SameMeaning first second)
      (back : SameMeaning second third) : SameMeaning first third
  | item {first second : Json} (front back : List Json) (same : SameMeaning first second) :
      SameMeaning (.array (front ++ first :: back)) (.array (front ++ second :: back))
  | member {first second : Json} (front : List (String × Json)) (name : String)
      (back : List (String × Json)) (same : SameMeaning first second) :
      SameMeaning (.object (front ++ (name, first) :: back))
        (.object (front ++ (name, second) :: back))
  | swapped (front : List (String × Json)) {first second : String × Json}
      (back : List (String × Json)) (differ : first.1 ≠ second.1) :
      SameMeaning (.object (front ++ first :: second :: back))
        (.object (front ++ second :: first :: back))
  | overwritten (front : List (String × Json)) {name : String} (value : Json)
      {back : List (String × Json)} (again : name ∈ back.map (·.1)) :
      SameMeaning (.object (front ++ (name, value) :: back)) (.object (front ++ back))

end EventCorrelation.Json
