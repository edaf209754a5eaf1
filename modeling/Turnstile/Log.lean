import Turnstile.Json
import Turnstile.Request

namespace Turnstile

/-!
# Log entries

What the service writes into its log: a level, a fixed message, and named fields.
-/

/-- How grave an entry is, the gravest first. -/
inductive Level where
  | error
  | warn
  | info
  | debug
  | trace
  deriving DecidableEq, Repr

namespace Level

/-- The name of a level. -/
def name : Level → String
  | error => "ERROR"
  | warn => "WARN"
  | info => "INFO"
  | debug => "DEBUG"
  | trace => "TRACE"

/-- Place in the order of gravity. -/
def rank : Level → Nat
  | error => 1
  | warn => 2
  | info => 3
  | debug => 4
  | trace => 5

/-- All levels, the gravest first. -/
def all : List Level := [error, warn, info, debug, trace]

end Level

/-- One entry of the log. -/
structure LogEntry where
  level : Level
  message : String
  fields : List (String × Json)

namespace LogEntry

/-- A field that is left out if it has no value. -/
def optionField (key : String) (f : α → Json) : Option α → List (String × Json)
  | none => []
  | some a => [(key, f a)]

/-- The field that ties an entry to a request. -/
def requestField (r : Request) : String × Json := ("request_id", .str r.id)

/-- The entry that raises an alarm. -/
def emergency (r : Request) (message : String) : LogEntry where
  level := .error
  message := "Emergency"
  fields := [("severity", .str "EMERGENCY"), requestField r, ("lang", .str r.language.tag)]
    ++ optionField "remote_ip" .str r.remoteIp ++ optionField "user_id" .int r.userId
    ++ optionField "user_session_id" .int r.sessionId ++ [("error", .str message)]

end LogEntry

end Turnstile
