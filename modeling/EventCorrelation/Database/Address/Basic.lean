import EventCorrelation.Text.Numeral
import EventCorrelation.Text.Utf8

/-!
# Addresses of databases

The parts of an address, and what its scheme says about the others.
-/

namespace EventCorrelation.Database

/-- Why an address cannot be used. -/
inductive AddressFault where
  | noScheme
  | emptyHost
  | badPort
  | badIpv4
  | badIpv6
  | badHost
  | badName
  | badText (fault : Text.Utf8Fault)
  | badNumber (fault : Text.NumeralFault)
  | badIp
  | badProtection (value : String)
deriving DecidableEq

/-- The parts of an address that a connection is made from, as they are spelled. -/
structure Address where
  user : List Char := []
  password : List Char := []
  host : List Char := []
  path : List Char := []
  query : List Char := []
deriving DecidableEq

/-- What a scheme says about the text behind it. -/
inductive SchemeKind where
  /-- There always is a host, and its name is one of the international names. -/
  | web
  /-- There may be such a host, but neither a user nor a port. -/
  | file
  | other
deriving DecidableEq

namespace SchemeKind

/-- The kind of a scheme in small letters. -/
def ofName (name : String) : SchemeKind :=
  if name = "file" then .file
  else if ["http", "https", "ws", "wss", "ftp"].contains name then .web
  else .other

/-- A backslash counts as a slash, except to other schemes. -/
def isSlash (kind : SchemeKind) (symbol : Char) : Bool :=
  symbol == '/' || (kind != .other && symbol == '\\')

end SchemeKind

namespace Address

/-- The text without control characters and spaces at either end, and without tabs and line breaks
anywhere. -/
def clean (text : List Char) : List Char :=
  let isOuter (symbol : Char) : Bool := symbol.toNat ≤ 0x20
  let trimmed := (((text.dropWhile isOuter).reverse).dropWhile isOuter).reverse
  trimmed.filter fun symbol => symbol != '\t' && symbol != '\n' && symbol != '\r'

/-- The kind of the scheme, and the text behind its colon. -/
def readScheme (text : List Char) : Except AddressFault (SchemeKind × List Char) :=
  let inside (symbol : Char) : Bool :=
    symbol.isAlphanum || symbol == '+' || symbol == '-' || symbol == '.'
  let name := text.takeWhile inside
  match text.dropWhile inside with
  | ':' :: rest =>
    if name.head?.any Char.isAlpha then
      .ok (.ofName (String.ofList (name.map Char.toLower)), rest)
    else .error .noScheme
  | _ => .error .noScheme

/-- The query or the fragment begins here. -/
def endsPath (symbol : Char) : Bool :=
  symbol == '?' || symbol == '#'

end Address

end EventCorrelation.Database
