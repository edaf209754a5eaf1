import Turnstile.Credential.Hash
import Turnstile.Json
import Turnstile.PersonName
import Turnstile.Request

namespace Turnstile

open Credential (CredentialError Hasher Salt)

/-!
# Users

An account: its address, its password's hash, and the person's names in stored form. A password in plain
text is on a record only between its being given and its being hashed.

* `User.toJson` is what callers see and `User.shape` what operators see; neither holds password or hash.
* `User.displayName` is the name as it is shown.
-/

/-- A row of the users table. -/
structure User where
  id : Id
  createdAt : Instant
  deletedAt : Option Instant
  email : Option String
  emailVerified : Bool
  password : Option String
  passwordHash : Option String
  passwordSet : Bool
  givenNames : Option String
  surname : Option String
  deriving DecidableEq, Repr

namespace User

/-- A user that has not been stored. -/
def new : User where
  id := 0
  createdAt := .epoch
  deletedAt := none
  email := none
  emailVerified := false
  password := none
  passwordHash := none
  passwordSet := false
  givenNames := none
  surname := none

instance : Inhabited User := ⟨new⟩

/-- Whether the row has not been deleted. -/
def isLive (u : User) : Bool := u.deletedAt.isNone

/-- Let `passwordSet` tell whether there is a hash. -/
def refreshPasswordSet (u : User) : User := { u with passwordSet := u.passwordHash.isSome }

/-- Hash the plain password. It is taken off the record even if hashing fails. -/
def hashPassword (h : Hasher) (salt : Salt) (u : User) : Except CredentialError Unit × User :=
  match u.password with
  | none => (.error .missingSecret, u)
  | some password =>
    let u := { u with password := none }
    match h.create salt password with
    | .ok hash => (.ok (), { u with passwordHash := some hash }.refreshPasswordSet)
    | .error e => (.error e, u)

/-- Whether the password is the user's; never so for a user without one. -/
def hasPassword (h : Hasher) (u : User) (password : String) : Bool :=
  match u.passwordHash with
  | some hash => h.compare hash password
  | none => false

/-- Given names and surname in title case; nothing if neither has a word. -/
def displayName (u : User) : Option String :=
  match (u.givenNames.toList ++ u.surname.toList).map PersonName.titleCase |>.filter (· ≠ "") with
  | [] => none
  | parts => some (" ".intercalate parts)

/-- What callers see of a user. -/
def toJson (u : User) : Json :=
  .obj [("id", .int u.id), ("createdAt", .str u.createdAt.zuluText),
    ("email", .option .str u.email), ("emailVerified", .bool u.emailVerified),
    ("passwordSet", .bool u.passwordSet), ("givenNames", .option .str u.givenNames),
    ("surname", .option .str u.surname)]

/-- What operators see of a user. -/
def shape (u : User) : Text.Shape :=
  .record "User"
    [("id", .int u.id), ("created_at", .plain u.createdAt.zuluText),
      ("deleted_at", .option (fun t => .plain t.zuluText) u.deletedAt),
      ("email", .option .text u.email), ("email_verified", .flag u.emailVerified),
      ("password_set", .flag u.passwordSet), ("given_names", .option .text u.givenNames),
      ("surname", .option .text u.surname)]
    false

end User

end Turnstile
