import Turnstile.Log
import Turnstile.Postgres.Address
import Turnstile.Postgres.Migration
import Turnstile.Settings

namespace Turnstile

open Postgres

/-!
# Starting the service

The database is reached, probed, and brought up to date if the settings say so. The first step that fails
ends the start.

* `Network` is what lies between the service and the database.
* `start` makes the steps and writes a log entry after each.
-/

/-- What lies between the service and the database. -/
structure Network (σ : Type) where
  server : Server σ
  /-- Reach the database at an address. -/
  reach : Address → Except DriverFault σ
  /-- The scripts that the database has recorded. -/
  history : σ → History

/-- A network on which nothing can be reached. -/
def Network.down : Network Unit where
  server := .failing (.connection "Network is unreachable (os error 101)")
  reach _ := .error (.connection "Network is unreachable (os error 101)")
  history _ := ⟨[], none⟩

/-- Why the service could not be started. -/
inductive StartupFault where
  | database (fault : DriverFault)
  | migration (fault : MigrationFault)
  deriving DecidableEq, Repr

/-- The wording of a fault. -/
def StartupFault.message : StartupFault → String
  | database fault => "database connection failed: " ++ fault.message
  | migration fault => "database migration failed: " ++ fault.message

namespace Startup

/-! ### Log entries -/

/-- The entry behind the first connection. -/
def connected (maxConnections : Nat) : LogEntry :=
  ⟨.info, "Database connection pool created", [("max_connections", .nat maxConnections)]⟩

/-- The entry behind a successful probe. -/
def probed : LogEntry := ⟨.info, "Database health check passed", []⟩

/-- The entry behind the last script. -/
def migrated : LogEntry := ⟨.info, "Database migrations applied", []⟩

/-! ### Steps -/

/-- Reach the database that a URL names. -/
def reach (net : Network σ) (url : String) : Except DriverFault (Connection σ) :=
  match Address.parse url with
  | .error fault => .error fault.report
  | .ok address => (net.reach address).map (Connection.new net.server)

/-- Probe the database outside of any transaction. -/
def healthCheck (k : Connection σ) : Except DriverFault Unit × Connection σ :=
  let (answer, k) := k.send (.execute .nothing probe)
  (answer.map fun _ => (), k)

/-- Bring the tables up to date if that is asked for. -/
def migrate (net : Network σ) (s : Settings) (k : Connection σ) :
    Except StartupFault Unit × List LogEntry × Connection σ :=
  if s.runMigrations then
    match (net.history k.state).migrate k with
    | (.ok (), k) => (.ok (), [migrated], k)
    | (.error fault, k) => (.error (.migration fault), [], k)
  else (.ok (), [], k)

/-- How a start came out: the fault that ended it, if any, the log entries, and the connection if one was
    made. -/
structure Outcome (σ : Type) where
  result : Except StartupFault Unit
  entries : List LogEntry
  connection : Option (Connection σ)

/-- Start the service. -/
def start (net : Network σ) (s : Settings) : Outcome σ :=
  match reach net s.databaseUrl with
  | .error fault => ⟨.error (.database fault), [], none⟩
  | .ok k =>
    let entries := [connected s.maxConnections]
    match healthCheck k with
    | (.error fault, k) => ⟨.error (.database fault), entries, some k⟩
    | (.ok (), k) =>
      let (result, more, k) := migrate net s k
      ⟨result, entries ++ [probed] ++ more, some k⟩

end Startup

end Turnstile
