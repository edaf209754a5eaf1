import Turnstile.UserDraft

namespace Turnstile

/-!
# Sign-in requests

What a caller presents to open a session. The address that the request came from is filled in by the
transport; nothing in the caller's own text can set it.
-/

/-- A request to open a session. -/
structure SignIn where
  email : Option String
  password : Option String
  purpose : String
  clientIp : String
  deriving DecidableEq, Repr

namespace SignIn

/-- A request that says nothing. -/
def empty : SignIn := ⟨none, none, "", ""⟩

/-- What operators may see of a request. -/
def shape (s : SignIn) : Text.Shape :=
  .record "CreateSessionParams"
    [("email", .option .text s.email), ("password", redacted s.password),
      ("purpose", .text s.purpose), ("client_ip", .text s.clientIp)]
    true

/-- An optional text that sets a field. -/
def member (name : String) (set : Option String → SignIn → SignIn) : Json.Member SignIn where
  name := name
  isOptional := false
  scan := fun cs => (Json.optional Json.text cs).map fun (value, cs) => (set value, cs)

/-- The purpose; it may be left out. -/
def purposeMember : Json.Member SignIn where
  name := "purpose"
  isOptional := true
  scan := fun cs => (Json.text cs).map fun (value, cs) => (fun s => { s with purpose := value }, cs)

/-- Read a request. -/
def scan : Json.Scan SignIn :=
  Json.record
    [member "email" fun v s => { s with email := v },
      member "password" fun v s => { s with password := v },
      purposeMember]
    empty

end SignIn

end Turnstile
