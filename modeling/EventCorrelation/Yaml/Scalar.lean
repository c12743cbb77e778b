import EventCorrelation.Text.Utf8
import EventCorrelation.Yaml.Ambiguity

/-!
# Strings in YAML

The four ways in which a string is written. A string with a line break becomes a literal block, one
that could be taken for something else gets single quotes, any other is written as it is. Where the
chosen way cannot carry the text, single quotes follow on the plain way and double quotes on the
others.
-/

namespace EventCorrelation.Yaml

/-- The characters that end a line. -/
def isBreak (symbol : Char) : Bool :=
  symbol == '\n' || symbol == '\r' || symbol == '\u0085' || symbol == '\u2028' ||
    symbol == '\u2029'

/-- A space, a tab or a line break. -/
def isSeparator (symbol : Char) : Bool :=
  symbol == ' ' || symbol == '\t' || isBreak symbol

/-- The characters that may stand outside double quotes. -/
def isPrintable (symbol : Char) : Bool :=
  let point := symbol.toNat
  point == 0x0A || (0x20 ≤ point && point ≤ 0x7E) || (0xA0 ≤ point && point ≤ 0xD7FF) ||
    (0xE000 ≤ point && point ≤ 0xFFFD && point != 0xFEFF) || 0x10000 ≤ point

/-- Some character of the first kind stands in front of one of the second kind. -/
def hasPair (first second : Char → Bool) : List Char → Bool
  | symbol :: next :: rest => (first symbol && second next) || hasPair first second (next :: rest)
  | _ => false

/-- A space in front of a line break. -/
def hasSpaceBeforeBreak (text : List Char) : Bool := hasPair (· == ' ') isBreak text

/-- A space behind a line break. -/
def hasSpaceAfterBreak (text : List Char) : Bool := hasPair isBreak (· == ' ') text

/-- The first characters that have a meaning of their own. -/
def indicators : List Char :=
  ['#', ',', '[', ']', '\x7b', '\x7d', '&', '*', '!', '|', '>', '\'', '"', '%', '@', '\x60']

/-- The text opens with something that is not the start of a plain string. -/
def opensSpecially : List Char → Bool
  | '-' :: '-' :: '-' :: _ => true
  | '.' :: '.' :: '.' :: _ => true
  | symbol :: rest =>
    indicators.contains symbol ||
      ((symbol == '?' || symbol == ':' || symbol == '-') && rest.head?.all isSeparator)
  | [] => false

/-- Behind the first character the text holds a colon that would end a key, or a number sign that
would open a comment. -/
def containsMark (text : List Char) : Bool :=
  hasPair isSeparator (· == '#') text || hasPair (· == ':') isSeparator (text.drop 1) ||
    (1 < text.length && text.getLast? == some ':')

/-- The text can stand without quotes. -/
def allowsPlain (text : List Char) : Bool :=
  !(opensSpecially text || containsMark text || text.any isBreak || text.head? == some ' ' ||
    text.getLast? == some ' ') && text.all isPrintable

/-- The text can stand in single quotes. -/
def allowsSingleQuotes (text : List Char) : Bool :=
  !(hasSpaceAfterBreak text || hasSpaceBeforeBreak text) && text.all isPrintable

/-- The text can stand in a literal block. -/
def allowsLiteral (text : List Char) : Bool :=
  !(text.getLast? == some ' ' || hasSpaceBeforeBreak text) && text.all isPrintable

/-- The ways to write a string. -/
inductive Style where
  | plain
  | singleQuoted
  | doubleQuoted
  | literal
deriving DecidableEq

/-- The way in which a string is written. -/
def Style.choose (text : String) : Style :=
  let symbols := text.toList
  if symbols.contains '\n' then
    if allowsLiteral symbols then .literal else .doubleQuoted
  else if !isAmbiguous text && allowsPlain symbols then .plain
  else if allowsSingleQuotes symbols then .singleQuoted
  else .doubleQuoted

/-- Spaces in front of the text of a line. -/
def indentation (indent : Nat) : List Char := List.replicate indent ' '

/-- Text with the indentation in front of every line that is not empty. The flag tells whether a
line starts here. -/
def indentLines (indent : Nat) : Bool → List Char → List Char
  | _, [] => []
  | starts, symbol :: rest =>
    if isBreak symbol then symbol :: indentLines indent true rest
    else if starts then indentation indent ++ symbol :: indentLines indent false rest
    else symbol :: indentLines indent false rest

/-- A text in single quotes: quotes are doubled, and what follows on line breaks is indented, the
closing quote included. -/
def singleQuoted (indent : Nat) (text : List Char) : List Char :=
  let doubled := text.flatMap fun symbol => if symbol = '\'' then ['\'', '\''] else [symbol]
  '\'' :: indentLines indent false (doubled ++ ['\''])

/-- Hexadecimal digits of a fixed number. -/
def hexadecimal (width value : Nat) : List Char :=
  let digits := (Nat.toDigits 16 value).map Char.toUpper
  List.replicate (width - digits.length) '0' ++ digits

/-- The letter that escapes a character in double quotes. -/
def escapeLetter? (symbol : Char) : Option Char :=
  [('\x00', '0'), ('\x07', 'a'), ('\x08', 'b'), ('\t', 't'), ('\n', 'n'), ('\x0b', 'v'),
    ('\x0c', 'f'), ('\r', 'r'), ('\x1b', 'e'), ('"', '"'), ('\\', '\\'), ('\u0085', 'N'),
    ('\u00a0', '_'), ('\u2028', 'L'), ('\u2029', 'P')].lookup symbol

/-- A character in double quotes. -/
def escape (symbol : Char) : List Char :=
  if isPrintable symbol && !isBreak symbol && symbol != '"' && symbol != '\\' then [symbol]
  else match escapeLetter? symbol with
    | some letter => ['\\', letter]
    | none =>
      if symbol.toNat ≤ 0xFF then '\\' :: 'x' :: hexadecimal 2 symbol.toNat
      else if symbol.toNat ≤ 0xFFFF then '\\' :: 'u' :: hexadecimal 4 symbol.toNat
      else '\\' :: 'U' :: hexadecimal 8 symbol.toNat

/-- A text in double quotes. -/
def doubleQuoted (text : List Char) : List Char :=
  '"' :: text.flatMap escape ++ ['"']

/-- How a literal block ends: without its last line break, with it, or with all of them. -/
def chomping (text : List Char) : List Char :=
  match text.reverse with
  | [] => ['-']
  | [last] => if isBreak last then ['+'] else ['-']
  | last :: second :: _ =>
    if isBreak last then if isBreak second then ['+'] else [] else ['-']

/-- A literal block. The indentation is stated where the text itself opens with blank space. -/
def literal (indent : Nat) (text : List Char) : List Char :=
  let hint := if text.head?.any fun symbol => symbol == ' ' || isBreak symbol then ['2'] else []
  '|' :: hint ++ chomping text ++ '\n' :: indentLines indent true text

/-- A string, of which all lines but the first are indented. -/
def writeString (indent : Nat) (text : String) : List Char :=
  match Style.choose text with
  | .plain => text.toList
  | .singleQuoted => singleQuoted indent text.toList
  | .doubleQuoted => doubleQuoted text.toList
  | .literal => literal indent text.toList

/-- A key that fits in front of a colon. -/
def isSimpleKey (name : String) : Bool :=
  name.utf8ByteSize ≤ 128 && !name.toList.any isBreak

end EventCorrelation.Yaml
