import Turnstile.Accounts
import Turnstile.SignIn

namespace Turnstile.Sessions

open Credential (Hasher)

/-!
# Sessions of users

Signing in and out, and telling whose session a presented credential is.

* `create`, `get`, `delete` and `verify` are the operations.

An unknown address and a wrong password are answered alike. Of what is wrong with a credential, a wrong
token comes before an expired session and a missing user, so that only who knows the token learns more.
-/

/-- The field that names a session. -/
def sessionField (id : Id) : String × Json := ("user_session_id", .int id)

/-! ### Signing in -/

/-- Failures of `create` are told under this name. -/
def createContext : String := "user session service create error"

/-- The purpose asked for, if signing in may issue it. -/
def issuable (raw : String) : Except Rejection Purpose :=
  match Purpose.parse raw with
  | .ok purpose => if purpose.isIssuable then .ok purpose else .error .userSessionPurposeInvalid
  | .error .missing => .error .userSessionPurposeMissing
  | .error (.unknown _) => .error .userSessionPurposeInvalid

/-- The address to look a user up by. -/
def addressKey (s : SignIn) : Option String :=
  (s.email.map Email.canonical).filter (· ≠ "")

/-- The user that the address names, if there is one. -/
def findUser (s : SignIn) : Service (Option User) :=
  match addressKey s with
  | some email => Service.users createContext (.getByEmail email)
  | none => pure none

/-- The password is asked for only to open an ordinary session, and only of users who have one. -/
def checkPassword (h : Hasher) (s : SignIn) (purpose : Purpose) (u : User) :
    Except Rejection Unit :=
  if purpose = .sessionCreate ∧ u.passwordHash.isSome then
    match s.password with
    | none => .error .userSessionPasswordMissing
    | some password =>
      if u.hasPassword h password then .ok () else .error .userSessionCredentialsInvalid
  else .ok ()

/-- Give a new session a token and an expiry. -/
def prepare (h : Hasher) (session : Session) : Service Session := do
  let draw ← Service.perform .draw
  let session ← Service.credential createContext (session.issueToken h draw)
  let now ← Service.perform .clock
  match Expiry.compute? now with
  | some t => return { session with expireAt := some t }
  | none => throw (.system (.invariant createContext "expiry is out of range"))

/-- Open a session. The record returned is the only one that carries the token. -/
def create (h : Hasher) (r : Request) (signIn : Option SignIn) : Service Session := do
  let s ← Service.orReject .userSessionCreateParamsMissing signIn
  if s.clientIp = "" then throw (.system (.invariant createContext "client ip is missing"))
  let purpose ← Service.checked (issuable s.purpose)
  let u ← Service.orReject .userSessionCredentialsInvalid (← findUser s)
  Service.checked (checkPassword h s purpose u)
  let session ← prepare h (Session.new u.id s.clientIp purpose)
  let session ← Service.sessions createContext (.create session)
  Service.log r .info "User session created"
    [Accounts.userField u.id, sessionField session.id, ("purpose", .str purpose.name)]
  return session

/-! ### Looking up and signing out -/

/-- Failures of `get` are told under this name. -/
def getContext : String := "user session service get by id error"

/-- Look a session up. -/
def get (id : Id) : Service Session := do
  Service.orReject .userSessionNotFound (← Service.sessions getContext (.getById id))

/-- Failures of `delete` are told under this name. -/
def deleteContext : String := "user session service delete error"

/-- End the running sessions of a user but the one to keep; counts those ended. -/
def delete (r : Request) (userId : Id) (keep : Option Session) : Service Nat := do
  if userId = 0 then Service.reject .userIdMissing
  let count ← Accounts.signOut deleteContext userId (keep.map (·.id))
  Service.log r .info "User sessions deleted" [Accounts.userField userId, ("deleted", .nat count)]
  return count

/-! ### Verifying -/

/-- Failures of `verify` are told under this name. -/
def verifyContext : String := "user session service verify error"

/-- Split a presented credential, blanks around it apart. -/
def readAuthorization (raw : String) : Except Rejection (Id × String) :=
  let text := Text.trim raw
  if text = "" then .error .authorizationMissing
  else
    match Credential.parseAuthorization text with
    | some parts => .ok parts
    | none => .error .authorizationInvalid

/-- The session and the user that a presented credential stands for. -/
def verify (h : Hasher) (r : Request) (authorization : String) : Service (Session × User) := do
  let (id, token) ← Service.checked (readAuthorization authorization)
  let session ← get id
  if !session.hasToken h token then Service.reject .authorizationWrong
  if session.isExpired (← Service.perform .clock) then Service.reject .authorizationExpired
  match ← Service.users verifyContext (.getById session.userId) with
  | some u => return (session, u)
  | none =>
    Service.log r .warn "User not found for user session"
      [sessionField session.id, Accounts.userField session.userId]
    Service.reject .userNotFound

end Turnstile.Sessions
