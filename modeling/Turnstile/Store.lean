import Turnstile.Repository

namespace Turnstile

/-!
# A store in memory

The tables of users and sessions as lists in the order of insertion. Keys count from one in each table.
Rows are stamped by the store's own clock, which moves by a second with each stamp.

* `Store.callUsers` and `Store.callSessions` answer the calls.
* No two live users share an address: a call that would break this fails.
-/

/-- Users, sessions, the keys handed out last, and the stamps handed out so far. -/
structure Store where
  users : List User
  sessions : List Session
  lastUser : Nat
  lastSession : Nat
  stamps : Nat

namespace Store

/-- A store without rows. -/
def empty : Store := ⟨[], [], 0, 0, 0⟩

/-! ### Stamps -/

/-- The time before the first stamp, 2024-01-01T00:00:00Z. -/
def clockStart : Int := 1704067200

/-- The next stamp. -/
def stamp (s : Store) : Instant := ⟨clockStart + s.stamps + 1, 0⟩

/-- The store after handing out a stamp. -/
def tick (s : Store) : Store := { s with stamps := s.stamps + 1 }

/-! ### Rows -/

/-- Change the first row that meets a condition. -/
def changeFirst (p : α → Bool) (f : α → α) : List α → List α
  | [] => []
  | a :: as => if p a then f a :: as else a :: changeFirst p f as

/-- Whether a row is the live row with a key. -/
def isLiveUser (id : Id) (u : User) : Bool := u.id == id && u.isLive

/-- Whether a row is the live row with a key. -/
def isLiveSession (id : Id) (s : Session) : Bool := s.id == id && s.isLive

/-- The live row with a key. -/
def liveUser? (s : Store) (id : Id) : Option User := s.users.find? (isLiveUser id)

/-- The live row with a key. -/
def liveSession? (s : Store) (id : Id) : Option Session := s.sessions.find? (isLiveSession id)

/-- Whether a live user other than `except` has the address. -/
def emailTaken (s : Store) (email : Option String) (except : Id) : Bool :=
  email.isSome && s.users.any fun u => u.isLive && u.id != except && u.email == email

/-- The row that is kept of a user: no plain password. -/
def keptUser (u : User) : User := { u with password := none }

/-- The row that is kept of a session: no token. -/
def keptSession (s : Session) : Session := { s with token := none }

/-! ### Calls on users -/

/-- The failure of a call that claims an address in use. -/
def emailViolation (call : UserCall) : RepositoryFailure :=
  .uniqueViolation call.context (some "uq_users_email")

/-- Insert a user. -/
def createUser (s : Store) (call : UserCall) (u : User) : Except RepositoryFailure User × Store :=
  if s.emailTaken u.email 0 then (.error (emailViolation call), s)
  else
    let u := { u with id := s.lastUser + 1, createdAt := s.stamp }.refreshPasswordSet
    (.ok u, { s.tick with users := s.users ++ [keptUser u], lastUser := s.lastUser + 1 })

/-- Replace the live row of a user, keeping its time of creation. -/
def saveUser (s : Store) (call : UserCall) (u : User) : Except RepositoryFailure User × Store :=
  if s.emailTaken u.email u.id then (.error (emailViolation call), s)
  else
    match s.liveUser? u.id with
    | none => (.error (.notFound call.context), s)
    | some row =>
      let u := { u with createdAt := row.createdAt }.refreshPasswordSet
      (.ok u, { s with users := changeFirst (isLiveUser u.id) (fun _ => keptUser u) s.users })

/-- Mark the live row of a user as deleted; without one, do nothing. -/
def deleteUser (s : Store) (u : User) : Except RepositoryFailure User × Store :=
  match s.liveUser? u.id with
  | none => (.ok u, s)
  | some _ =>
    let mark (u : User) : User := { u with deletedAt := some s.stamp }
    (.ok (mark u), { s.tick with users := changeFirst (isLiveUser u.id) mark s.users })

/-- Answer a call on the table of users. -/
def callUsers (s : Store) : (call : UserCall) → Except RepositoryFailure call.Result × Store
  | .create u => s.createUser (.create u) u
  | .save u => if u.id = 0 then s.createUser (.save u) u else s.saveUser (.save u) u
  | .getById id => (.ok ((s.liveUser? id).map User.refreshPasswordSet), s)
  | .getByEmail email =>
    (.ok ((s.users.find? fun u => u.email == some email && u.isLive).map User.refreshPasswordSet), s)
  | .delete u => s.deleteUser u

/-! ### Calls on sessions -/

/-- Insert a session; no two sessions ever share a token's hash. -/
def createSession (s : Store) (x : Session) : Except RepositoryFailure Session × Store :=
  if s.sessions.any (·.tokenHash == x.tokenHash) then
    (.error (.uniqueViolation (SessionCall.create x).context
      (some "uq_user_sessions_token_hash")), s)
  else
    let x := { x with id := s.lastSession + 1, createdAt := s.stamp }
    (.ok x, { s.tick with
      sessions := s.sessions ++ [keptSession x], lastSession := s.lastSession + 1 })

/-- Mark the live row of a session as deleted; without one, do nothing. -/
def deleteSession (s : Store) (x : Session) : Except RepositoryFailure Session × Store :=
  match s.liveSession? x.id with
  | none => (.ok x, s)
  | some _ =>
    let mark (x : Session) : Session := { x with deletedAt := some s.stamp }
    (.ok (mark x), { s.tick with sessions := changeFirst (isLiveSession x.id) mark s.sessions })

/-- Whether a session of a user is live and runs beyond an instant. -/
def runsBeyond (userId : Id) (now : Instant) (x : Session) : Bool :=
  x.userId == userId && x.isLive && x.isActive now

/-- Answer a call on the table of sessions. -/
def callSessions (s : Store) :
    (call : SessionCall) → Except RepositoryFailure call.Result × Store
  | .create x => s.createSession x
  | .getById id => (.ok (s.liveSession? id), s)
  | .listActive userId now => (.ok (s.sessions.filter (runsBeyond userId now)), s)
  | .delete x => s.deleteSession x

end Store

end Turnstile
