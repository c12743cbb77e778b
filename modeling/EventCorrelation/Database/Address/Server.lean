import EventCorrelation.Database.Address.Path
import EventCorrelation.Host.Ip
import EventCorrelation.Host.Name
import EventCorrelation.Text.Percent

/-!
# Servers of addresses

The part of an address with the user, the host and the port. Hosts of the web and of files are
names or IP addresses; other hosts only have to do without some characters.
-/

namespace EventCorrelation.Database.Address

/-- The characters that no host of another scheme may contain. -/
def isForbidden (symbol : Char) : Bool :=
  ['\x00', '\t', '\n', '\r', ' ', '#', '/', ':', '<', '>', '?', '@', '[', '\\', ']', '^',
    '|'].contains symbol

/-- Checks a host in brackets, behind the first one. -/
def checkBracketed (inner : List Char) : Except AddressFault Unit :=
  if inner.getLast? == some ']' && Host.isIpv6 inner.dropLast then .ok () else .error .badIpv6

/-- Checks a host that is a name or an IP address of version 4. -/
def checkName (host : List Char) : Except AddressFault Unit :=
  let name := Text.ofBytesLossy (Text.percentDecode (Text.bytes (String.ofList host)))
  match Host.readName? name.toList with
  | none => .error .badName
  | some labels =>
    if labels = [[]] then .error .emptyHost
    else if Host.endsInNumber labels && !Host.isLooseIpv4 labels then .error .badIpv4
    else .ok ()

/-- Checks a host. -/
def checkHost (kind : SchemeKind) (host : List Char) : Except AddressFault Unit :=
  match kind, host with
  | .web, [] => .error .emptyHost
  | _, [] => .ok ()
  | _, '[' :: inner => checkBracketed inner
  | .other, host => if host.any isForbidden then .error .badHost else .ok ()
  | _, host => checkName host

/-- The host in front of the colon of a port, and the text behind it. A colon in brackets belongs to
the host. -/
def splitHost : Bool → List Char → List Char × List Char
  | _, [] => ([], [])
  | bracketed, symbol :: rest =>
    if symbol = ':' ∧ bracketed = false then ([], symbol :: rest)
    else
      let bracketed := symbol == '[' || (bracketed && symbol != ']')
      let (host, rest) := splitHost bracketed rest
      (symbol :: host, rest)

/-- Checks a port of at most 16 bits. -/
def checkPort (digits : List Char) : Except AddressFault Unit :=
  if digits.all Char.isDigit && (digits.isEmpty || (String.ofList digits).toNat?.any (· < 65536))
  then .ok ()
  else .error .badPort

/-- The text in front of the last `@`, if there is one, and the text behind it. -/
def splitUser (authority : List Char) : Option (List Char) × List Char :=
  let behind := (authority.reverse.takeWhile (· != '@')).reverse
  if behind.length = authority.length then (none, authority)
  else (some (authority.take (authority.length - behind.length - 1)), behind)

/-- Reads the user, the host and the port, and gives what is left in front of the path. A user needs
a host, and a port ends at a backslash. -/
def readAuthority (kind : SchemeKind) (authority : List Char) (followed : Bool) :
    Except AddressFault (Address × List Char) := do
  let (user, server) := splitUser authority
  if user = some [] ∧ server = [] ∧ followed then throw .emptyHost
  let (host, port) := splitHost false server
  checkHost kind host
  if host.isEmpty && !port.isEmpty then throw .emptyHost
  checkPort ((port.drop 1).takeWhile (· != '\\'))
  let user := user.getD []
  if host.isEmpty && user != [] && user != [':'] then throw .emptyHost
  return ({
    user := user.takeWhile (· != ':')
    password := (user.dropWhile (· != ':')).drop 1
    host }, port.dropWhile (· != '\\'))

/-- The text from the first slash, query or fragment on, and the text in front of it. -/
def splitAuthority (kind : SchemeKind) (text : List Char) : List Char × List Char :=
  let ends (symbol : Char) : Bool := kind.isSlash symbol || endsPath symbol
  (text.takeWhile (!ends ·), text.dropWhile (!ends ·))

/-- Reads the part with the host, if there is one, and gives the text behind it. Two slashes open
it; in addresses of the web they may be more or fewer. In addresses of files a drive in its place
belongs to the path. -/
def readServer (kind : SchemeKind) (text : List Char) :
    Except AddressFault (Address × List Char) :=
  match kind, text with
  | .web, text => do
    let (authority, rest) := splitAuthority .web (text.dropWhile SchemeKind.web.isSlash)
    let (address, left) ← readAuthority .web authority !rest.isEmpty
    return (address, left ++ rest)
  | .other, '/' :: '/' :: text => do
    let (authority, rest) := splitAuthority .other text
    let (address, left) ← readAuthority .other authority !rest.isEmpty
    return (address, left ++ rest)
  | .file, first :: second :: text =>
    if SchemeKind.file.isSlash first && SchemeKind.file.isSlash second then do
      let (host, rest) := splitAuthority .file text
      if host.length = 2 ∧ isDrive host then return ({}, text)
      checkHost .file host
      return ({ host }, rest)
    else .ok ({}, first :: second :: text)
  | _, text => .ok ({}, text)

end EventCorrelation.Database.Address
