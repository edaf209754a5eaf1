import Turnstile.Field
import Turnstile.Program
import Turnstile.UserDraft

namespace Turnstile.Accounts

open Credential (Hasher)

/-!
# Accounts

Signing up, changing and deleting users. Each operation checks what it was given before it touches the
database; a rejection leaves everything as it was.

* `create`, `update`, `get` and `delete` are the operations.
* `signOut` ends the sessions of a user; it is shared with the operations on sessions.
-/

/-! ### Checking drafts -/

/-- A draft whose supplied fields have passed their rules and are in stored form. -/
structure Fields where
  email : Option String
  password : Option String
  givenNames : Option String
  surname : Option String
  deriving DecidableEq, Repr

/-- Apply a rule to a field if it is supplied. -/
def supplied (rule : String → Except Rejection String) :
    Option String → Except Rejection (Option String)
  | none => .ok none
  | some raw => (rule raw).map some

/-- Check a draft; of several faults that of the first field counts. -/
def check (d : UserDraft) : Except Rejection Fields := do
  let email ← supplied Field.email d.email
  let password ← supplied Field.password d.password
  let givenNames ← supplied Field.givenNames d.givenNames
  let surname ← supplied Field.surname d.surname
  return { email, password, givenNames, surname }

/-! ### Steps -/

/-- End with a rejection if a live user has the address. -/
def requireFree (context email : String) : Service Unit := do
  match ← Service.users context (.getByEmail email) with
  | some _ => Service.reject .userEmailExists
  | none => pure ()

/-- Hash a password into a user. -/
def setPassword (h : Hasher) (context password : String) (u : User) : Service User := do
  let salt ← Service.perform .salt
  let (result, u) := { u with password := some password }.hashPassword h salt
  Service.credential context result
  return u

/-- Delete each session but the one to keep; counts those deleted. -/
def deleteEach (context : String) (keep : Option Id) : List Session → Service Nat
  | [] => pure 0
  | s :: rest =>
    if some s.id = keep then deleteEach context keep rest
    else do
      let _ ← Service.sessions context (.delete s)
      return (← deleteEach context keep rest) + 1

/-- End the running sessions of a user but the one to keep; counts those ended. -/
def signOut (context : String) (userId : Id) (keep : Option Id) : Service Nat := do
  let now ← Service.perform .clock
  let sessions ← Service.sessions context (.listActive userId now)
  deleteEach context keep sessions

/-- The field that names a user. -/
def userField (id : Id) : String × Json := ("user_id", .int id)

/-! ### Operations -/

/-- Failures of `create` are told under this name. -/
def createContext : String := "user service create error"

/-- The title of the notice about a new user. -/
def newUserTitle : String := "New user"

/-- Tell operators of a new user; a notice that cannot be delivered is only logged. -/
def announce (r : Request) (u : User) : Service Unit := do
  match ← Service.perform (.notify (.event r newUserTitle (u.email.getD ""))) with
  | .ok () => pure ()
  | .error fault =>
    Service.log r .warn "New user notification failed"
      [userField u.id, ("error", .str fault.message)]

/-- Take the address of a draft, which must be free. -/
def takeNewEmail (fields : Fields) : Service Unit :=
  match fields.email with
  | none => pure ()
  | some email => requireFree createContext email

/-- The password of a draft, hashed into a user. -/
def takePassword (h : Hasher) (context : String) (fields : Fields) (u : User) : Service User :=
  match fields.password with
  | none => pure u
  | some password => setPassword h context password u

/-- Sign a user up. Of two users who claim the same address at once, the database lets only one in;
    looking the address up first only makes for a better answer in the common case. -/
def create (h : Hasher) (r : Request) (draft : Option UserDraft) : Service User := do
  let draft ← Service.orReject .userCreateParamsMissing draft
  let fields ← Service.checked (check draft)
  takeNewEmail fields
  let u ← takePassword h createContext fields { User.new with email := fields.email }
  let u := { u with givenNames := fields.givenNames, surname := fields.surname }
  let u ← Service.users createContext (.create u)
  Service.log r .info "User created" [userField u.id]
  announce r u
  return u

/-- Failures of `update` are told under this name. -/
def updateContext : String := "user service update error"

/-- Take the address of a draft. Another address than before must be free and is unverified. -/
def takeEmail (fields : Fields) (u : User) : Service User :=
  match fields.email with
  | none => pure u
  | some email =>
    if u.email = some email then pure u
    else do
      requireFree updateContext email
      return { u with email := some email, emailVerified := false }

/-- Save a user; one who has been deleted in the meantime is not found. -/
def save (u : User) : Service User := do
  match ← Service.perform (.users (.save u)) with
  | .ok u => pure u
  | .error f => if f.isNotFound then Service.reject .userNotFound else throw (.repository updateContext f)

/-- Sign out whoever else is signed in. -/
def signOutOthers (r : Request) (u : User) (active : Option Session) : Service Unit := do
  let count ← signOut updateContext u.id (active.map (·.id))
  Service.log r .info "Password changed; other sessions signed out"
    [userField u.id, ("signed_out", .nat count)]

/-- Change a user. A new password ends every other session of the user but the active one. -/
def update (h : Hasher) (r : Request) (user : Option User) (active : Option Session)
    (draft : Option UserDraft) : Service User := do
  let u ← Service.orReject .userMissing user
  let draft ← Service.orReject .userUpdateParamsMissing draft
  let fields ← Service.checked (check draft)
  let u ← takeEmail fields u
  let u ← takePassword h updateContext fields u
  let u := { u with
    givenNames := fields.givenNames <|> u.givenNames
    surname := fields.surname <|> u.surname }
  let u ← save u
  if fields.password.isSome then signOutOthers r u active
  return u

/-- Failures of `get` are told under this name. -/
def getContext : String := "user service get by id error"

/-- Look a user up. -/
def get (id : Id) : Service User := do
  if id = 0 then Service.reject .userIdMissing
  Service.orReject .userNotFound (← Service.users getContext (.getById id))

/-- Failures of `delete` are told under this name. -/
def deleteContext : String := "user service delete error"

/-- Delete a user, and the running sessions first. -/
def delete (r : Request) (user : Option User) : Service User := do
  let u ← Service.orReject .userMissing user
  let _ ← signOut deleteContext u.id none
  let u ← Service.users deleteContext (.delete u)
  Service.log r .info "User deleted" [userField u.id]
  return u

end Turnstile.Accounts
