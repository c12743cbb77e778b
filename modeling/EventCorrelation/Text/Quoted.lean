import EventCorrelation.Text.Visible

/-!
# Quoted text

Text in double quotes as it appears in diagnostics. Quotes and backslashes are escaped, the usual
controls by their letters, and every other character without a visible form of its own by its code
point.
-/

namespace EventCorrelation.Text

/-- The code point of a character in braces. -/
def escapePoint (symbol : Char) : List Char :=
  '\\' :: 'u' :: '\x7b' :: Nat.toDigits 16 symbol.toNat ++ ['\x7d']

/-- A character as it stands in quoted text. -/
def quoteSymbol (symbol : Char) : List Char :=
  if symbol = '"' then ['\\', '"']
  else if symbol = '\\' then ['\\', '\\']
  else if symbol = '\n' then ['\\', 'n']
  else if symbol = '\r' then ['\\', 'r']
  else if symbol = '\t' then ['\\', 't']
  else if symbol = '\x00' then ['\\', '0']
  else if isVisible symbol then [symbol]
  else escapePoint symbol

/-- A text in double quotes. -/
def quoted (text : String) : String :=
  String.ofList ('"' :: text.toList.flatMap quoteSymbol ++ ['"'])

end EventCorrelation.Text
