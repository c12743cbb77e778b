import EventCorrelation.Json.Tree

/-!
# Spellings

The texts that spell a value. White space may stand wherever a text allows it, and a character of a
string may be escaped in any way that names it. Of the numbers only integers have a spelling here:
the one in which they are printed.
-/

namespace EventCorrelation.Json

/-- What may stand between the quotes of a string for one character. -/
inductive SpellsSymbol : Char → List UInt8 → Prop
  | plain {symbol : Char} (printable : 0x20 ≤ symbol.toNat) (notQuote : symbol ≠ '"')
      (notBackslash : symbol ≠ '\\') : SpellsSymbol symbol (String.utf8EncodeChar symbol)
  | letter {letter byte : UInt8} (escapes : simpleEscape? letter = some byte) :
      SpellsSymbol (Char.ofNat byte.toNat) [0x5C, letter]
  | unit {first second third fourth : UInt8} {unit : Nat}
      (hex : hexUnit? first second third fourth = some unit)
      (notLow : isLowSurrogate unit = false) (notHigh : isHighSurrogate unit = false) :
      SpellsSymbol (Char.ofNat unit) [0x5C, 0x75, first, second, third, fourth]
  | pair {first second third fourth first' second' third' fourth' : UInt8} {high low : Nat}
      (hexHigh : hexUnit? first second third fourth = some high)
      (hexLow : hexUnit? first' second' third' fourth' = some low)
      (isHigh : isHighSurrogate high = true) (isLow : isLowSurrogate low = true) :
      SpellsSymbol (Char.ofNat ((high - 0xD800) * 0x400 + (low - 0xDC00) + 0x10000))
        [0x5C, 0x75, first, second, third, fourth, 0x5C, 0x75, first', second', third', fourth']

/-- What may stand between the quotes of a string. -/
inductive SpellsText : List Char → List UInt8 → Prop
  | nil : SpellsText [] []
  | cons {symbol : Char} {symbols : List Char} {front back : List UInt8}
      (head : SpellsSymbol symbol front) (tail : SpellsText symbols back) :
      SpellsText (symbol :: symbols) (front ++ back)

/-- White space between the parts of a text. -/
def IsSpace (text : List UInt8) : Prop :=
  ∀ byte ∈ text, byte = 0x20 ∨ byte = 0x0A ∨ byte = 0x09 ∨ byte = 0x0D

/-- The bytes of the printed integer. -/
def integerBytes (value : Int) : List UInt8 :=
  Text.bytes (toString value)

/-- What stands between two items, or in front of the first. -/
inductive Separates : Place → List UInt8 → Prop
  | first {space : List UInt8} (isSpace : IsSpace space) : Separates .first space
  | later {before behind : List UInt8} (isSpaceBefore : IsSpace before)
      (isSpaceBehind : IsSpace behind) : Separates .later (before ++ 0x2C :: behind)

mutual

/-- The text spells the value, without white space around it. -/
inductive Spells : Json → List UInt8 → Prop
  | null : Spells .null [0x6E, 0x75, 0x6C, 0x6C]
  | true : Spells (.bool true) [0x74, 0x72, 0x75, 0x65]
  | false : Spells (.bool false) [0x66, 0x61, 0x6C, 0x73, 0x65]
  | integer {value : Int} (least : -9223372036854775808 ≤ value)
    (greatest : value < 18446744073709551616) :
      Spells (.number (.integer value)) (integerBytes value)
  | string {symbols : List Char} {text : List UInt8} (spelled : SpellsText symbols text) :
      Spells (.string (String.ofList symbols)) (0x22 :: text ++ [0x22])
  | array {items : List Json} {text : List UInt8} (spelled : SpellsItems .first items text) :
      Spells (.array items) (0x5B :: text ++ [0x5D])
  | object {members : List (String × Json)} {text : List UInt8}
      (spelled : SpellsMembers .first members text) : Spells (.object members) (0x7B :: text ++ [0x7D])

/-- The text spells the items from a place on, up to the closing bracket. -/
inductive SpellsItems : Place → List Json → List UInt8 → Prop
  | nil {place : Place} {space : List UInt8} (isSpace : IsSpace space) : SpellsItems place [] space
  | cons {place : Place} {item : Json} {items : List Json} {between front back : List UInt8}
      (separates : Separates place between) (head : Spells item front)
      (tail : SpellsItems .later items back) :
      SpellsItems place (item :: items) (between ++ front ++ back)

/-- The text spells the members from a place on, up to the closing bracket. -/
inductive SpellsMembers : Place → List (String × Json) → List UInt8 → Prop
  | nil {place : Place} {space : List UInt8} (isSpace : IsSpace space) : SpellsMembers place [] space
  | cons {place : Place} {name : List Char} {value : Json} {members : List (String × Json)}
      {between quoted before behind front back : List UInt8} (separates : Separates place between)
      (spelled : SpellsText name quoted) (isSpaceBefore : IsSpace before)
      (isSpaceBehind : IsSpace behind) (head : Spells value front)
      (tail : SpellsMembers .later members back) :
      SpellsMembers place ((String.ofList name, value) :: members)
        (between ++ 0x22 :: quoted ++ 0x22 :: before ++ 0x3A :: behind ++ front ++ back)

end

end EventCorrelation.Json
