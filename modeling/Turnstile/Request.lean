import Turnstile.Language
import Turnstile.Text.Hex
import Turnstile.Text.Inspect
import Turnstile.Time.Calendar

namespace Turnstile

/-!
# Requests

What is known about an operation from the moment it arrives: an identifier that ties its traces
together, the caller's language and address, and, once known, the user and the session behind it.

* `Request.fields` are the pairs that decorate what operators are told; unset ones are left out.
-/

/-- Keys of stored rows. -/
abbrev Id := Int

/-- What is known about one operation. -/
structure Request where
  id : String
  language : Language
  remoteIp : Option String
  userId : Option Id
  sessionId : Option Id
  startedAt : Instant
  deriving DecidableEq, Repr

namespace Request

/-- A request of which nothing but its identifier and start is known. -/
def new (id : String) (startedAt : Instant) : Request :=
  { id, language := .turkish, remoteIp := none, userId := none, sessionId := none, startedAt }

/-- The pair for an optional field. -/
def optionField (key : String) : Option String → List (String × String)
  | none => []
  | some value => [(key, value)]

/-- The fields that are set, with their keys. -/
def fields (r : Request) : List (String × String) :=
  [("request_id", r.id), ("lang", r.language.tag), ("date", r.startedAt.offsetText)]
    ++ optionField "remote_ip" r.remoteIp
    ++ optionField "user_id" (r.userId.map toString)
    ++ optionField "user_session_id" (r.sessionId.map toString)

/-- What operators may see of a request. -/
def shape (r : Request) : Text.Shape :=
  .record "RequestContext"
    [("request_id", .text r.id), ("language", .plain r.language.label),
      ("remote_ip", .option .text r.remoteIp), ("user_id", .option .int r.userId),
      ("user_session_id", .option .int r.sessionId),
      ("started_at", .plain r.startedAt.zuluText)]
    true

/-! ### Fresh identifiers -/

/-- The groups of digits in an identifier. -/
def idGroups : List Nat := [8, 4, 4, 4, 12]

/-- Cut digits into the groups of an identifier. -/
def groupDigits : List Nat → List Char → List Char
  | [], _ => []
  | [n], cs => cs.take n
  | n :: ns, cs => cs.take n ++ '-' :: groupDigits ns (cs.drop n)

/-- Set the bits that tell version 4 and the variant of RFC 9562. -/
def markVersion (bytes : List UInt8) : List UInt8 :=
  bytes.mapIdx fun i b =>
    if i = 6 then b &&& 0x0f ||| 0x40 else if i = 8 then b &&& 0x3f ||| 0x80 else b

/-- The random identifier made from sixteen bytes. -/
def freshId (bytes : List UInt8) : String :=
  String.ofList (groupDigits idGroups (Text.hex (markVersion bytes)))

end Request

end Turnstile
