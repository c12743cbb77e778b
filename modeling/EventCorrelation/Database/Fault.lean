import EventCorrelation.Database.Connection
import EventCorrelation.Text.Quoted

/-!
# Faults of the database

Why a database cannot be reached, queried or brought up to date.
-/

namespace EventCorrelation

open Database

/-- What went wrong between the service and the database. -/
inductive DatabaseCause where
  /-- The database answered with an error, perhaps with a code. -/
  | reported (code : Option String) (text : String)
  | timeout
  | noRow
  | address (fault : AddressFault)
deriving DecidableEq

inductive DatabaseFault where
  | connecting (cause : DatabaseCause)
  | querying (cause : DatabaseCause)
  /-- A migration was applied that is not known any more. -/
  | lostMigration (version : Int)
  /-- No directory with migrations could be read. -/
  | noMigrations (tried lastFault : String)
deriving DecidableEq

namespace Database.AddressFault

def message : AddressFault → String
  | .noScheme => "relative URL without a base"
  | .emptyHost => "empty host"
  | .badPort => "invalid port number"
  | .badIpv4 => "invalid IPv4 address"
  | .badIpv6 => "invalid IPv6 address"
  | .badHost => "invalid domain character"
  | .badName => "invalid international domain name"
  | .badText fault => fault.message
  | .badNumber fault => fault.message
  | .badIp => "invalid IP address syntax"
  | .badProtection value =>
      "error with configuration: unknown value " ++ Text.quoted value ++ " for `ssl_mode`"

end Database.AddressFault

namespace DatabaseCause

def message : DatabaseCause → String
  | .reported _ text => "error returned from database: " ++ text
  | .timeout => "pool timed out while waiting for an open connection"
  | .noRow => "no rows returned by a query that expected to return at least one row"
  | .address fault => "error with configuration: " ++ fault.message

end DatabaseCause

namespace DatabaseFault

def message : DatabaseFault → String
  | .connecting cause => "database connection failed: " ++ cause.message
  | .querying cause => "database query failed: " ++ cause.message
  | .lostMigration version =>
      "database migration failed: migration " ++ toString version ++
        " was previously applied but is missing in the resolved migrations"
  | .noMigrations tried lastFault =>
      "no migrations found (tried " ++ tried ++ "; last error: " ++ lastFault ++ ")"

/-- The code that the database gave for a failed query. -/
def code? : DatabaseFault → Option String
  | .querying (.reported code _) => code
  | _ => none

/-- The code of a reference to a missing row. -/
def missingReferenceCode : String := "23503"

/-- The query referred to a missing row. -/
def isMissingReference (fault : DatabaseFault) : Bool :=
  fault.code? == some missingReferenceCode

/-- Checks the address of a database. -/
def checkAddress (text : String) : Except DatabaseFault Unit :=
  (Address.check text).mapError fun fault => .connecting (.address fault)

end DatabaseFault

end EventCorrelation
