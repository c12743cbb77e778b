import EventCorrelation.Identifier.Basic

/-!
# Spellings of identifiers

Which texts are identifiers of a kind, and what is wrong with all others. A digit may be written in
either letter case, and the first digit has two bits more than the number of an identifier can hold.
-/

namespace EventCorrelation

namespace Base32

/-- The character is the digit of the value in either letter case. -/
def IsDigit (symbol : Char) (value : Nat) : Prop :=
  ∃ capital, alphabet[value]? = some capital ∧ (symbol = capital ∨ symbol = capital.toLower)

/-- The characters are the digits of the values, one by one. -/
inductive Spells : List Nat → List Char → Prop
  | nil : Spells [] []
  | cons {value : Nat} {values : List Nat} {symbol : Char} {symbols : List Char}
      (head : IsDigit symbol value) (tail : Spells values symbols) :
      Spells (value :: values) (symbol :: symbols)

/-- The number with these values of its digits, the most significant first. -/
def number : List Nat → Nat
  | [] => 0
  | value :: rest => value * Nat.pow 32 rest.length + number rest

/-- The numerals are the same up to letter case and to the two upper bits of their first digits. -/
inductive Alike : List Char → List Char → Prop
  | intro {left right : Char} {leftValue rightValue : Nat} {lefts rights : List Char}
      (isLeft : IsDigit left leftValue) (isRight : IsDigit right rightValue)
      (lowBits : leftValue % 8 = rightValue % 8)
      (letters : lefts.map Char.toUpper = rights.map Char.toUpper) :
      Alike (left :: lefts) (right :: rights)

end Base32

namespace Identifier

/-- The text is the tag of the kind, an underscore, and digits with these values that fill the width
of a numeral. -/
inductive Spells (kind : EntityKind) : List Nat → String → Prop
  | intro {values : List Nat} {numeral : String} (digits : Base32.Spells values numeral.toList)
      (width : numeral.utf8ByteSize = numeralWidth) : Spells kind values (kind.tag ++ "_" ++ numeral)

/-- The texts are the same up to letter case and to the two upper bits of their first digits. -/
inductive Alike (kind : EntityKind) : String → String → Prop
  | intro {left right : String} (numerals : Base32.Alike left.toList right.toList) :
      Alike kind (kind.tag ++ "_" ++ left) (kind.tag ++ "_" ++ right)

/-- What is wrong with a text that is no identifier of the kind, whatever else may be wrong with it
further on. -/
inductive Refuses (kind : EntityKind) : String → Fault → Prop
  | empty : Refuses kind "" .empty
  | missingSeparator {text : String} (nonempty : text ≠ "") (absent : '_' ∉ text.toList) :
      Refuses kind text .missingSeparator
  | foreignTag {tag rest : String} (first : '_' ∉ tag.toList) (foreign : tag ≠ kind.tag) :
      Refuses kind (tag ++ "_" ++ rest) (.foreignTag kind tag)
  | wrongLength {numeral : String} (width : numeral.utf8ByteSize ≠ numeralWidth) :
      Refuses kind (kind.tag ++ "_" ++ numeral) .wrongLength
  | foreignDigit {numeral : String} {symbol : Char} (width : numeral.utf8ByteSize = numeralWidth)
      (member : symbol ∈ numeral.toList) (foreign : ∀ value, ¬ Base32.IsDigit symbol value) :
      Refuses kind (kind.tag ++ "_" ++ numeral) .foreignDigit

end Identifier

end EventCorrelation
