import Turnstile.Json
import Turnstile.Request
import Turnstile.Text.Inspect

namespace Turnstile.Webhook

/-!
# Webhooks for operators

Operators are told of business events by one incoming webhook and of failures by another. Each notice is
one POST request, tried once.

* `Notice.payload` is the body, made of blocks that the chat service lays out.
* `Targets.post?` says whether and where a notice is posted.
* `deliver` posts it through a transport and judges the answer.
-/

/-! ### Targets -/

/-- Where to post. An unset or empty address, or a switched-off channel, means not at all. -/
structure Targets where
  events : Option String
  errors : Option String
  enabled : Bool
  deriving DecidableEq, Repr

/-- What operators may see of the targets. -/
def Targets.shape (t : Targets) : Text.Shape :=
  .record "SlackConfig"
    [("events_webhook", .option .text t.events), ("errors_webhook", .option .text t.errors),
      ("enabled", .flag t.enabled)]
    true

/-! ### Notices -/

/-- Something to tell operators, and the request that gave rise to it. -/
inductive Notice where
  /-- A business event; what is posted of it does not show the request. -/
  | event (request : Request) (title message : String)
  /-- A failure, posted with the fields of the request. -/
  | failure (request : Request) (chain : String)
  deriving DecidableEq, Repr

/-- A text with its markup style. -/
def styled (style text : String) : Json := .obj [("type", .str style), ("text", .str text)]

/-- A paragraph. -/
def paragraph (text : String) : Json :=
  .obj [("type", .str "section"), ("text", styled "mrkdwn" text)]

/-- A call for attention to everyone in the channel. -/
def mention : Json := paragraph "<!channel|channel>"

/-- A heading. -/
def heading (title : String) : Json :=
  .obj [("type", .str "header"),
    ("text", .obj [("type", .str "plain_text"), ("text", .str title), ("emoji", .bool true)])]

/-- A line between blocks. -/
def divider : Json := .obj [("type", .str "divider")]

/-- One field of a request. -/
def fieldBlock (field : String × String) : Json :=
  styled "plain_text" (field.1 ++ ": " ++ field.2)

/-- The fields of a request side by side. -/
def fieldsBlock (r : Request) : Json :=
  .obj [("type", .str "section"), ("fields", .arr (r.fields.map fieldBlock))]

/-- The heading over failures. -/
def failureTitle : String := "Application Error"

/-- The body of a notice. -/
def Notice.payload : Notice → Json
  | .event _ title message =>
    .obj [("blocks", .arr [mention, heading title, divider, paragraph message])]
  | .failure request chain =>
    .obj [("blocks", .arr [mention, heading failureTitle, divider, fieldsBlock request, divider,
      paragraph ("\x60\x60\x60" ++ chain ++ "\x60\x60\x60")])]

/-! ### Delivery -/

/-- The address that a notice would go to. -/
def Targets.address (t : Targets) : Notice → Option String
  | .event .. => t.events
  | .failure .. => t.errors

/-- A POST request with a JSON body. -/
structure Post where
  url : String
  body : Json

/-- The request for a notice, if it is to be posted. -/
def Targets.post? (t : Targets) (n : Notice) : Option Post :=
  if t.enabled then ((t.address n).filter (· ≠ "")).map fun url => ⟨url, n.payload⟩ else none

/-- What becomes of a request: no answer, or a status and a body that may be unreadable. -/
inductive Reply where
  | none (reason : String)
  | answer (status : Nat) (body : Option String)

/-- Why a notice was not delivered. -/
inductive DeliveryFault where
  | request (reason : String)
  | refused (status : Nat) (body : String)
  deriving DecidableEq, Repr

/-- The wording of a fault. -/
def DeliveryFault.message : DeliveryFault → String
  | request reason => "notification request failed: " ++ reason
  | refused status body =>
    "notification endpoint returned HTTP " ++ toString status ++ ": " ++ body

/-- Statuses from 200 to 299 mean success. -/
def Reply.judge : Reply → Except DeliveryFault Unit
  | .none reason => .error (.request reason)
  | .answer status body =>
    if 200 ≤ status ∧ status < 300 then .ok () else .error (.refused status (body.getD ""))

/-- Post a notice, if it is to be posted, through a transport. -/
def deliver [Monad m] (transport : Post → m Reply) (t : Targets) (n : Notice) :
    m (Except DeliveryFault Unit) :=
  match t.post? n with
  | none => pure (.ok ())
  | some post => return (← transport post).judge

end Turnstile.Webhook
