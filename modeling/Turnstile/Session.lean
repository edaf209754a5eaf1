import Turnstile.Credential.Token
import Turnstile.Expiry
import Turnstile.Json
import Turnstile.Purpose
import Turnstile.Request

namespace Turnstile

open Credential (CredentialError Draw Hasher)

/-!
# Sessions

A sign-in: whose it is, from where and what for, until when, and the hash of its token. The token itself
is only on the record that issued it.

* `Session.toJson` is what callers see, `Session.shape` what operators see.
-/

/-- A row of the sessions table. -/
structure Session where
  id : Id
  createdAt : Instant
  deletedAt : Option Instant
  userId : Id
  token : Option String
  tokenHash : String
  clientIp : String
  purpose : Purpose
  expireAt : Option Instant
  deriving DecidableEq, Repr

namespace Session

/-- A session that has not been stored and has no token yet. -/
def new (userId : Id) (clientIp : String) (purpose : Purpose) : Session where
  id := 0
  createdAt := .epoch
  deletedAt := none
  userId := userId
  token := none
  tokenHash := ""
  clientIp := clientIp
  purpose := purpose
  expireAt := none

/-- Whether the row has not been deleted. -/
def isLive (s : Session) : Bool := s.deletedAt.isNone

/-- Issue a token; it stays on this record. -/
def issueToken (h : Hasher) (draw : Draw) (s : Session) : Except CredentialError Session := do
  let issued ← Credential.tokenCreate h draw
  return { s with token := some issued.token, tokenHash := issued.hash }

/-- Whether the token is the session's. -/
def hasToken (h : Hasher) (s : Session) (token : String) : Bool := h.compare s.tokenHash token

/-- Whether the session has expired. -/
def isExpired (s : Session) (now : Instant) : Bool := Expiry.isExpired s.expireAt now

/-- Whether the session is still running. -/
def isActive (s : Session) (now : Instant) : Bool := Expiry.isActive s.expireAt now

/-- The field for a token that is present. -/
def tokenField : Option String → List (String × Json)
  | none => []
  | some token => [("token", .str token)]

/-- What callers see of a session. -/
def toJson (s : Session) : Json :=
  .obj ([("id", .int s.id), ("createdAt", .str s.createdAt.zuluText), ("userId", .int s.userId)]
    ++ tokenField s.token ++ [("purpose", .str s.purpose.name)])

/-- What operators see of a session. -/
def shape (s : Session) : Text.Shape :=
  .record "UserSession"
    [("id", .int s.id), ("created_at", .plain s.createdAt.zuluText),
      ("deleted_at", .option (fun t => .plain t.zuluText) s.deletedAt),
      ("user_id", .int s.userId), ("client_ip", .text s.clientIp),
      ("purpose", .plain s.purpose.label),
      ("expire_at", .option (fun t => .plain t.zuluText) s.expireAt)]
    false

end Session

end Turnstile
