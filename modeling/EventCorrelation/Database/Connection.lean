import EventCorrelation.Database.Address.Reader
import EventCorrelation.Text.Percent

/-!
# Connections that addresses ask for

What has to make sense in an address once it is cut into its parts: the texts in it, and those
options of its query that are numbers, IP addresses or words of a fixed list. Options that nobody
knows are passed over.
-/

namespace EventCorrelation.Database

namespace Address

/-- Checks that a part stands for a text. -/
def checkText (part : List Char) : Except AddressFault Unit :=
  match Text.utf8Fault? (Text.percentDecode (Text.bytes (String.ofList part))) with
  | some fault => .error (.badText fault)
  | none => .ok ()

/-- The host, if it is the path of a socket. -/
def isSocket (host : List Char) : Bool :=
  (Text.percentDecode (Text.bytes (String.ofList host))).head? == some 0x2F

/-- The levels of protection that a query may ask for. -/
def protections : List String :=
  ["disable", "allow", "prefer", "require", "verify-ca", "verify-full"]

/-- Checks a number with the given limit. -/
def checkNumber (limit : Nat) (text : String) : Except AddressFault Unit :=
  match Text.readNumeral limit text.toList with
  | .error fault => .error (.badNumber fault)
  | .ok _ => .ok ()

/-- A name or a value in a query; a plus sign stands for a space. -/
def queryText (text : List Char) : String :=
  let spaced := text.map fun symbol => if symbol = '+' then ' ' else symbol
  Text.ofBytesLossy (Text.percentDecode (Text.bytes (String.ofList spaced)))

/-- Checks an option of a query. -/
def checkOption (name value : String) : Except AddressFault Unit :=
  if name = "sslmode" ∨ name = "ssl-mode" then
    if protections.contains (String.ofList (value.toList.map Char.toLower)) then .ok ()
    else .error (.badProtection value)
  else if name = "statement-cache-capacity" then checkNumber (Nat.pow 2 64) value
  else if name = "hostaddr" then if Host.isIp value.toList then .ok () else .error .badIp
  else if name = "port" then checkNumber (Nat.pow 2 16) value
  else .ok ()

/-- Checks the options of a query. -/
def checkQuery (query : List Char) : Except AddressFault Unit :=
  ((Text.pieces '&' query).filter (!·.isEmpty)).forM fun piece =>
    checkOption (queryText (piece.takeWhile (· != '=')))
      (queryText ((piece.dropWhile (· != '=')).drop 1))

/-- Checks what an address asks for. -/
def checkParts (address : Address) : Except AddressFault Unit := do
  if isSocket address.host then checkText address.host
  checkText address.user
  checkText address.password
  checkText (address.path.dropWhile (· == '/'))
  checkQuery address.query

/-- Checks an address. -/
def check (text : String) : Except AddressFault Unit := do
  (← read text).checkParts

end Address

end EventCorrelation.Database
