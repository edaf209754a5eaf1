import Turnstile.Json.Reader
import Turnstile.Text.Inspect

namespace Turnstile

/-!
# Drafts of users

The fields that a caller supplies to sign up or to change an account, as they were typed. Only supplied
fields are checked and applied. A password is never shown, only whether there is one.
-/

/-- Supplied fields, unchecked. -/
structure UserDraft where
  email : Option String
  password : Option String
  givenNames : Option String
  surname : Option String
  deriving DecidableEq, Repr

/-- What is shown in place of a secret that is present. -/
def redacted : Option String → Text.Shape := .option fun _ => .text "<redacted>"

namespace UserDraft

/-- A draft that supplies nothing. -/
def empty : UserDraft := ⟨none, none, none, none⟩

/-- What operators may see of a draft. -/
def shape (d : UserDraft) : Text.Shape :=
  .record "UserParams"
    [("email", .option .text d.email), ("password", redacted d.password),
      ("given_names", .option .text d.givenNames), ("surname", .option .text d.surname)]
    true

/-- An optional text that sets a field. -/
def member (name : String) (set : Option String → UserDraft → UserDraft) :
    Json.Member UserDraft where
  name := name
  isOptional := false
  scan := fun cs => (Json.optional Json.text cs).map fun (value, cs) => (set value, cs)

/-- Read a draft. -/
def scan : Json.Scan UserDraft :=
  Json.record
    [member "email" fun v d => { d with email := v },
      member "password" fun v d => { d with password := v },
      member "givenNames" fun v d => { d with givenNames := v },
      member "surname" fun v d => { d with surname := v }]
    empty

end UserDraft

end Turnstile
