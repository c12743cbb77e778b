import EventCorrelation.Host.Direction
import EventCorrelation.Host.Folding
import EventCorrelation.Host.Joining
import EventCorrelation.Host.Punycode
import EventCorrelation.Text.Pieces

/-!
# Names of hosts

A name is folded and cut at its dots. A label behind `xn--` stands for another label and has to be
the only spelling of it. Labels keep the rules on marks, joiners and directions.
-/

namespace EventCorrelation.Host

/-- The characters of ASCII that separate the parts of an address or control a text. -/
def isReserved (symbol : Char) : Bool :=
  symbol.toNat ≤ 0x20 || symbol == '\x7f' ||
    ['%', '#', '/', ':', '<', '>', '?', '@', '[', '\\', ']', '^', '|'].contains symbol

/-- A text holds a reserved character that does not merge with the one behind it. -/
def holdsReserved : List Char → Bool
  | [] => false
  | [symbol] => isReserved symbol
  | first :: second :: rest =>
    (isReserved first && !merge first second) || holdsReserved (second :: rest)

/-- The labels of a folded name. -/
def labels? (name : List Char) : Option (List (List Char)) := do
  let folded := (← name.mapM fold?).flatten
  if holdsReserved folded then none else some (Text.pieces '.' folded)

/-- The longest encoding that is decoded. -/
def maxEncoding : Nat := 2000

/-- The longest label that is encoded. -/
def maxEncoded : Nat := 1000

def isAscii (label : List Char) : Bool :=
  label.all fun symbol => symbol.toNat < 0x80

/-- The label that an encoding stands for, if it has no other encoding. -/
def decodeLabel? (encoding : List Char) : Option (List Char) := do
  if encoding.length > maxEncoding || !isAscii encoding || encoding.isEmpty ||
      encoding.getLast? == some '-' then none
  let label ← Punycode.decode? encoding
  if label.all (fun symbol => symbol.toNat < 0x80 || isFolded symbol) && isComposed label then
    some label
  else none

/-- The label in full. -/
def expand? : List Char → Option (List Char)
  | 'x' :: 'n' :: '-' :: '-' :: encoding => decodeLabel? encoding
  | label => if isAscii label || label.length ≤ maxEncoded then some label else none

/-- A label that keeps the rules for all names. -/
def isLabel (label : List Char) : Bool :=
  !label.head?.any isMark && joinersMatter [] label

/-- The labels of a name, folded, if it may be the name of a host. -/
def readName? (name : List Char) : Option (List (List Char)) := do
  let labels ← labels? name
  let full ← labels.mapM expand?
  let isMixed := full.any (·.any isRightward)
  if full.all isLabel && (!isMixed || full.all keepsDirection) then some labels else none

end EventCorrelation.Host
