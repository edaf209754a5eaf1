namespace Turnstile

/-!
# Failures of the database

* `DriverFault` is what the database driver reports.
* `RepositoryFailure` is a driver's report classified by the operation that met it: a violated
  uniqueness constraint is set apart from the rest.

Each has a `message`, and `causes`: the messages of the failures beneath it, outermost first.
-/

/-- Why a column could not be read. -/
inductive DecodeFault where
  /-- The column is null and its type has no null. -/
  | unexpectedNull
  /-- The value was converted by a rule that gives no reason. -/
  | unprintable
  deriving DecidableEq, Repr

/-- The wording of a fault in a column. -/
def DecodeFault.message : DecodeFault → String
  | .unexpectedNull => "unexpected null; try decoding as an `Option`"
  | .unprintable => "unprintable error: (unprintable type)"

/-- An error answer of the server: its text, the constraint it names, and whether the constraint is one
    of uniqueness. -/
structure ServerError where
  message : String
  constraint : Option String
  unique : Bool
  deriving DecidableEq, Repr

/-- What the database driver reports. -/
inductive DriverFault where
  | rowNotFound
  | poolTimedOut
  | poolClosed
  | workerCrashed
  | protocol (text : String)
  | columnNotFound (name : String)
  | server (error : ServerError)
  | column (name : String) (fault : DecodeFault)
  | connection (text : String)
  | configuration (text : String)
  deriving DecidableEq, Repr

namespace DriverFault

/-- The wording of a report. -/
def message : DriverFault → String
  | rowNotFound => "no rows returned by a query that expected to return at least one row"
  | poolTimedOut => "pool timed out while waiting for an open connection"
  | poolClosed => "attempted to acquire a connection on a closed pool"
  | workerCrashed => "attempted to communicate with a crashed background worker"
  | protocol text => "encountered unexpected or invalid data: " ++ text
  | columnNotFound name => "no column found for name: " ++ name
  | server error => "error returned from database: " ++ error.message
  | column name fault => "error occurred while decoding column " ++ name ++ ": " ++ fault.message
  | connection text => "error communicating with database: " ++ text
  | configuration text => "error with configuration: " ++ text

/-- The messages beneath a report. -/
def causes : DriverFault → List String
  | server error => [error.message]
  | column _ fault => [fault.message]
  | connection text => [text]
  | configuration text => [text]
  | _ => []

end DriverFault

/-- The failure of a repository operation, which `context` names. -/
inductive RepositoryFailure where
  | uniqueViolation (context : String) (constraint : Option String)
  | driver (context : String) (fault : DriverFault)
  | notFound (context : String)
  | closed (context : String)
  deriving DecidableEq, Repr

namespace RepositoryFailure

/-- Classify a driver's report. -/
def ofDriver (context : String) : DriverFault → RepositoryFailure
  | .server error =>
    if error.unique then .uniqueViolation context error.constraint
    else .driver context (.server error)
  | fault => .driver context fault

/-- The wording of a failure. -/
def message : RepositoryFailure → String
  | uniqueViolation context constraint =>
    context ++ ": unique constraint violated: " ++ constraint.getD "unknown"
  | driver context fault => context ++ ": " ++ fault.message
  | notFound context => context ++ ": row not found"
  | closed context => context ++ ": transaction is closed"

/-- The messages beneath a failure. -/
def causes : RepositoryFailure → List String
  | driver _ fault => fault.message :: fault.causes
  | _ => []

/-- Whether a uniqueness constraint was violated. -/
def isUniqueViolation : RepositoryFailure → Bool
  | uniqueViolation .. => true
  | _ => false

/-- Whether the row to change was not there. -/
def isNotFound : RepositoryFailure → Bool
  | notFound _ => true
  | _ => false

/-- The violated constraint, where known. -/
def constraint? : RepositoryFailure → Option String
  | uniqueViolation _ constraint => constraint
  | _ => none

end RepositoryFailure

end Turnstile
