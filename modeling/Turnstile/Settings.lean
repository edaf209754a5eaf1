import Turnstile.Text.Blank
import Turnstile.Text.Number
import Turnstile.Time.Span
import Turnstile.Webhook

namespace Turnstile

/-!
# Settings

What the service is started with, taken from named variables.

* `Settings.load` reads the variables through a look-up. A variable that is blank counts as unset. The
  first variable at fault, in the order of the record's fields, decides the error.
* `SettingsFault.message` words the error.
-/

/-- Where the service runs. Operators are not notified in development. -/
inductive Environment where
  | development
  | staging
  | production
  deriving DecidableEq, Repr

namespace Environment

/-- The name shown to operators. -/
def label : Environment → String
  | development => "Dev"
  | staging => "Staging"
  | production => "Prod"

/-- The environment that a word in capitals names. -/
def ofWord? : String → Option Environment
  | "DEV" | "DEVELOPMENT" => some development
  | "STAGING" | "TEST" => some staging
  | "PROD" | "PRODUCTION" => some production
  | _ => none

/-- The environment that a text names; blanks around it and the case of its letters do not matter. -/
def parse? (raw : String) : Option Environment := ofWord? (Text.trim raw).toUpper

/-- Whether this is a developer's own environment. -/
def isDevelopment (e : Environment) : Bool := e == development

end Environment

/-- How log entries are written. -/
inductive LogFormat where
  | pretty
  | json
  deriving DecidableEq, Repr

/-- The name shown to operators. -/
def LogFormat.label : LogFormat → String
  | pretty => "Pretty"
  | json => "Json"

/-- What the service is started with. -/
structure Settings where
  databaseUrl : String
  maxConnections : Nat
  transactionTimeout : Span
  runMigrations : Bool
  environment : Environment
  webhooks : Webhook.Targets
  logFormat : LogFormat
  deriving DecidableEq, Repr

/-- Why the service cannot be started with the given variables. -/
inductive SettingsFault where
  | missing (key : String)
  | invalid (key value reason : String)
  deriving DecidableEq, Repr

/-- The wording of a fault. -/
def SettingsFault.message : SettingsFault → String
  | missing key => key ++ " must be set"
  | invalid key value reason => key ++ " is invalid (" ++ Text.quote value ++ "): " ++ reason

namespace Settings

/-! ### Single variables -/

/-- A look-up of variables by name. -/
abbrev Lookup := String → Option String

/-- The value of a variable that is set and not blank. -/
def value? (vars : Lookup) (key : String) : Option String :=
  (vars key).filter fun value => Text.trim value != ""

/-- The number in a variable, or a default if it is unset. -/
def number (vars : Lookup) (key : String) (limit default : Nat) : Except SettingsFault Nat :=
  match value? vars key with
  | none => .ok default
  | some value =>
    match Text.readNumber limit (Text.trim value).toList with
    | .ok n => .ok n
    | .error fault => .error (.invalid key value fault.message)

/-- The truth value that a word in small letters names. -/
def flagOfWord? : String → Option Bool
  | "1" | "true" | "yes" => some true
  | "0" | "false" | "no" => some false
  | _ => none

/-- The truth value in a variable, or a default if it is unset. -/
def flag (vars : Lookup) (key : String) (default : Bool) : Except SettingsFault Bool :=
  match value? vars key with
  | none => .ok default
  | some value =>
    match flagOfWord? (Text.trim value).toLower with
    | some b => .ok b
    | none => .error (.invalid key value "expected true or false")

/-- The environment; that of developers if the variable is unset. -/
def environmentOf (vars : Lookup) : Except SettingsFault Environment :=
  match value? vars "ENV" with
  | none => .ok .development
  | some value =>
    match Environment.parse? value with
    | some environment => .ok environment
    | none => .error (.invalid "ENV" value "expected DEV, STAGING, or PROD")

/-- The format of the log; whatever is not known means the readable one. -/
def logFormatOf (vars : Lookup) : LogFormat :=
  match value? vars "LOG_FORMAT" with
  | none => .pretty
  | some value => if (Text.trim value).toLower = "json" then .json else .pretty

/-! ### All of them -/

/-- The largest number of connections that can be asked for. -/
def connectionLimit : Nat := 4294967295

/-- The longest timeout that can be asked for, in seconds. -/
def timeoutLimit : Nat := 18446744073709551615

/-- A transaction must be given some time. -/
def timeoutSeconds (vars : Lookup) : Except SettingsFault Nat := do
  let seconds ← number vars "TRANSACTION_TIMEOUT_SECS" timeoutLimit 30
  if seconds = 0 then
    throw (.invalid "TRANSACTION_TIMEOUT_SECS" (toString seconds) "must be greater than zero")
  return seconds

/-- Read the settings. -/
def load (vars : Lookup) : Except SettingsFault Settings := do
  let databaseUrl ←
    match value? vars "DATABASE_URL" with
    | some url => .ok url
    | none => .error (.missing "DATABASE_URL")
  let maxConnections ← number vars "DATABASE_MAX_CONNECTIONS" connectionLimit 20
  let seconds ← timeoutSeconds vars
  let runMigrations ← flag vars "RUN_MIGRATIONS" true
  let environment ← environmentOf vars
  return {
    databaseUrl, maxConnections
    transactionTimeout := .ofSeconds seconds
    runMigrations, environment
    webhooks := {
      events := value? vars "SLACK_WEBHOOK_EVENTS"
      errors := value? vars "SLACK_WEBHOOK_ERRORS"
      enabled := !environment.isDevelopment }
    logFormat := logFormatOf vars }

/-- What operators may see of the settings. -/
def shape (s : Settings) : Text.Shape :=
  .record "ServiceConfig"
    [("database_url", .text s.databaseUrl), ("database_max_connections", .int s.maxConnections),
      ("transaction_timeout", .plain s.transactionTimeout.text),
      ("run_migrations", .flag s.runMigrations), ("environment", .plain s.environment.label),
      ("slack", s.webhooks.shape), ("log_format", .plain s.logFormat.label)]
    true

end Settings

end Turnstile
