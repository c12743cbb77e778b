/-!
# Faults of JSON texts

The ways in which a text stops being JSON.
-/

namespace EventCorrelation.Json

/-- What was being read when the text ended. -/
inductive Unfinished where
  | value
  | list
  | object
  | string
deriving DecidableEq

inductive Fault where
  | endOfText (unfinished : Unfinished)
  | missingColon
  | missingListSeparator
  | missingObjectSeparator
  | badWord
  | missingValue
  | badEscape
  | badNumber
  | numberOutOfRange
  | badCodePoint
  | controlCharacter
  | keyNotString
  | loneSurrogate
  | unpairedSurrogate
  | trailingSeparator
  | trailingCharacters
  | tooDeep
deriving DecidableEq

namespace Fault

def message : Fault → String
  | .endOfText .value => "EOF while parsing a value"
  | .endOfText .list => "EOF while parsing a list"
  | .endOfText .object => "EOF while parsing an object"
  | .endOfText .string => "EOF while parsing a string"
  | .missingColon => "expected `:`"
  | .missingListSeparator => "expected `,` or `]`"
  | .missingObjectSeparator => "expected `,` or `\x7d`"
  | .badWord => "expected ident"
  | .missingValue => "expected value"
  | .badEscape => "invalid escape"
  | .badNumber => "invalid number"
  | .numberOutOfRange => "number out of range"
  | .badCodePoint => "invalid unicode code point"
  | .controlCharacter => "control character (\\u0000-\\u001F) found while parsing a string"
  | .keyNotString => "key must be a string"
  | .loneSurrogate => "lone leading surrogate in hex escape"
  | .unpairedSurrogate => "unexpected end of hex escape"
  | .trailingSeparator => "trailing comma"
  | .trailingCharacters => "trailing characters"
  | .tooDeep => "recursion limit exceeded"

end Fault

end EventCorrelation.Json
