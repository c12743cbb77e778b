/-!
# Blank characters

White space in the sense of the Unicode property: the characters that trimming removes and that
make a name or a setting count as missing.
-/

namespace EventCorrelation.Text

/-- The Unicode white space characters. -/
def isBlank (symbol : Char) : Bool :=
  let point := symbol.toNat
  (9 ≤ point && point ≤ 13) || point == 0x20 || point == 0x85 || point == 0xA0 ||
    point == 0x1680 || (0x2000 ≤ point && point ≤ 0x200A) || point == 0x2028 ||
    point == 0x2029 || point == 0x202F || point == 0x205F || point == 0x3000

/-- A text of nothing but blanks, the empty text included. -/
def allBlank (text : String) : Bool :=
  text.toList.all isBlank

/-- The characters without the blanks in front. -/
def dropBlanks (symbols : List Char) : List Char :=
  symbols.dropWhile isBlank

/-- The characters without the blanks at either end. -/
def trimBlanks (symbols : List Char) : List Char :=
  (dropBlanks (dropBlanks symbols).reverse).reverse

/-- The text without the blanks at either end. -/
def trim (text : String) : String :=
  String.ofList (trimBlanks text.toList)

/-- The text without the blanks at its end. -/
def trimEnd (text : String) : String :=
  String.ofList (dropBlanks text.toList.reverse).reverse

end EventCorrelation.Text
