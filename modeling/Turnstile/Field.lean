import Turnstile.Email
import Turnstile.PersonName
import Turnstile.Rejection

namespace Turnstile.Field

/-!
# Rules for what users type

Each rule takes a field as it was typed and gives its stored form, or the rejection that tells the user
what is wrong. What is stored is what was checked.
-/

/-- An address: neither blank nor ill-formed. -/
def email (raw : String) : Except Rejection String :=
  let email := Email.canonical raw
  if email = "" then .error .userEmailMissing
  else if Email.isFormat email then .ok email
  else .error .userEmailInvalid

/-- The fewest characters of a password. -/
def minPassword : Nat := 6

/-- A password is taken as it stands, and is long enough. -/
def password (raw : String) : Except Rejection String :=
  if raw = "" then .error .userPasswordMissing
  else if raw.length < minPassword then .error .userPasswordInvalid
  else .ok raw

/-- The fewest characters of a name in its stored form. -/
def minName : Nat := 2

/-- A name: neither blank nor too short. -/
def name (missing invalid : Rejection) (raw : String) : Except Rejection String :=
  let name := PersonName.canonical raw
  if name = "" then .error missing
  else if name.length < minName then .error invalid
  else .ok name

/-- Given names. -/
def givenNames : String → Except Rejection String :=
  name .userGivenNamesMissing .userGivenNamesInvalid

/-- A surname. -/
def surname : String → Except Rejection String := name .userSurnameMissing .userSurnameInvalid

end Turnstile.Field
