import EventCorrelation.Environment
import EventCorrelation.Json.Members
import EventCorrelation.Text.Numeral

/-!
# Settings of the database

The address of the database and the size of the pool of connections. A count that is not a positive
number of 32 bits is ignored, and no more connections are kept open than there may be.
-/

namespace EventCorrelation

structure DatabaseSettings where
  address : String
  maxConnections : Nat
  minConnections : Nat
  acquireMillis : Nat
  idleMillis : Nat
  lifetimeMillis : Nat
deriving DecidableEq

namespace DatabaseSettings

/-- The settings if nothing is set. -/
def standard : DatabaseSettings where
  address := "postgres://localhost/quorum"
  maxConnections := 10
  minConnections := 1
  acquireMillis := 5000
  idleMillis := 600000
  lifetimeMillis := 1800000

/-- A count in decimal digits, with blanks around it and a plus sign in front, unless it is zero or
has more than 32 bits. -/
def readCount? (text : String) : Option Nat :=
  (Text.readNumeral (Nat.pow 2 32) (Text.trimBlanks text.toList)).toOption.filter (0 < ·)

/-- The count in a variable. -/
def countOf (environment : Environment) (name : String) (absent : Nat) : Nat :=
  ((environment name).bind readCount?).getD absent

/-- The settings in an environment. -/
def ofEnvironment (environment : Environment) : DatabaseSettings :=
  let most := countOf environment "DB_MAX_CONNECTIONS" standard.maxConnections
  { standard with
    address := (environment "DATABASE_URL").getD standard.address
    maxConnections := most
    minConnections := min (countOf environment "DB_MIN_CONNECTIONS" standard.minConnections) most }

/-- The settings as a JSON value. -/
def toJson (settings : DatabaseSettings) : Json :=
  .object [("database_url", settings.address), ("max_connections", settings.maxConnections),
    ("min_connections", settings.minConnections), ("acquire_timeout_ms", settings.acquireMillis),
    ("idle_timeout_ms", settings.idleMillis), ("max_lifetime_ms", settings.lifetimeMillis)]

end DatabaseSettings

end EventCorrelation
