import Turnstile.Repository

namespace Turnstile.Postgres

/-!
# Statements

What is sent to the database server for each call on the tables. The text of a statement is fixed; the
values of a record travel beside it as parameters.

* `Statement` is a text with its parameters, typed by the rows that it returns.
* `insertUser`, `upsertUser` and the others are the statements in use.
-/

/-! ### Times -/

/-- The server counts microseconds from 2000-01-01T00:00:00Z. -/
structure Timestamp where
  micros : Int
  deriving DecidableEq, Repr

namespace Timestamp

/-- 2000-01-01T00:00:00Z. -/
def zero : Int := 946684800

/-- The server's time of an instant; what is finer than a microsecond is dropped toward the zero. -/
def ofInstant (t : Instant) : Timestamp :=
  ⟨((t.seconds - zero) * 1000000000 + t.nanos).tdiv 1000⟩

/-- The instant of a server's time. -/
def toInstant (t : Timestamp) : Instant :=
  ⟨zero + t.micros / 1000000, (t.micros % 1000000).toNat * 1000⟩

theorem ofInstant_toInstant (t : Timestamp) : ofInstant t.toInstant = t := by
  have h : ((zero + t.micros / 1000000 - zero) * 1000000000
      + ((t.micros % 1000000).toNat * 1000 : Nat) : Int) = t.micros * 1000 := by omega
  rw [ofInstant, toInstant, h, Int.mul_tdiv_cancel _ (by decide)]

end Timestamp

/-! ### Parameters -/

/-- A parameter of a statement. -/
inductive Param where
  | null
  | int (n : Int)
  | flag (b : Bool)
  | text (s : String)
  | time (t : Timestamp)
  deriving DecidableEq, Repr

/-- A parameter that may be absent. -/
def Param.option (f : α → Param) : Option α → Param
  | none => null
  | some a => f a

/-- The parameter for an instant. -/
def Param.instant (t : Instant) : Param := time (.ofInstant t)

/-! ### Rows -/

/-- The columns of a row of users; any may be null. -/
structure UserRow where
  id : Option Id
  createdAt : Option Timestamp
  deletedAt : Option Timestamp
  email : Option String
  emailVerified : Option Bool
  passwordHash : Option String
  givenNames : Option String
  surname : Option String

/-- The columns of a row of sessions; any may be null. -/
structure SessionRow where
  id : Option Id
  createdAt : Option Timestamp
  deletedAt : Option Timestamp
  userId : Option Id
  tokenHash : Option String
  clientIp : Option String
  purpose : Option String
  expireAt : Option Timestamp

/-- The columns that tell of a new row. -/
structure KeyRow where
  id : Option Id
  createdAt : Option Timestamp

/-- The column that tells of a deletion. -/
structure DeletionRow where
  deletedAt : Option Timestamp

/-- What the rows of an answer hold. -/
inductive RowKind where
  | user
  | session
  | key
  | deletion
  | nothing
  deriving DecidableEq, Repr

/-- The type of a row. -/
@[reducible] def RowKind.Row : RowKind → Type
  | user => UserRow
  | session => SessionRow
  | key => KeyRow
  | deletion => DeletionRow
  | nothing => Unit

/-- A statement that returns rows of a kind: its text, and its parameters in order. -/
structure Statement (kind : RowKind) where
  text : String
  params : List Param
  deriving DecidableEq, Repr

/-! ### Users -/

/-- The columns of the table of users. -/
def userColumns : String :=
  "id, created_at, deleted_at, email, email_verified, password_hash, given_names, surname"

/-- The values of a user that are stored. -/
def userParams (u : User) : List Param :=
  [.option .text u.email, .flag u.emailVerified, .option .text u.passwordHash,
    .option .text u.givenNames, .option .text u.surname]

/-- Insert a user. -/
def insertUser (u : User) : Statement .user where
  text := "INSERT INTO users (email, email_verified, password_hash, given_names, surname) "
    ++ "VALUES ($1, $2, $3, $4, $5) RETURNING " ++ userColumns
  params := userParams u

/-- Insert a user under a key, or replace the live row that has it. -/
def upsertUser (u : User) : Statement .user where
  text := "INSERT INTO users (id, email, email_verified, password_hash, given_names, surname) "
    ++ "VALUES ($1, $2, $3, $4, $5, $6) ON CONFLICT (id) DO UPDATE SET email = EXCLUDED.email, "
    ++ "email_verified = EXCLUDED.email_verified, password_hash = EXCLUDED.password_hash, "
    ++ "given_names = EXCLUDED.given_names, surname = EXCLUDED.surname "
    ++ "WHERE users.deleted_at IS NULL RETURNING " ++ userColumns
  params := .int u.id :: userParams u

/-- Find the live user with a key. -/
def selectUser (id : Id) : Statement .user where
  text := "SELECT " ++ userColumns ++ " FROM users WHERE id = $1 AND deleted_at IS NULL"
  params := [.int id]

/-- Find the live user with an address. -/
def selectUserByEmail (email : String) : Statement .user where
  text := "SELECT " ++ userColumns ++ " FROM users WHERE email = $1 AND deleted_at IS NULL"
  params := [.text email]

/-- Mark the live user with a key as deleted. -/
def deleteUser (id : Id) : Statement .deletion where
  text := "UPDATE users SET deleted_at = NOW() WHERE id = $1 AND deleted_at IS NULL "
    ++ "RETURNING deleted_at"
  params := [.int id]

/-! ### Sessions -/

/-- The columns of the table of sessions. -/
def sessionColumns : String :=
  "id, created_at, deleted_at, user_id, token_hash, client_ip, purpose, expire_at"

/-- Insert a session. -/
def insertSession (s : Session) : Statement .key where
  text := "INSERT INTO user_sessions (user_id, token_hash, client_ip, purpose, expire_at) "
    ++ "VALUES ($1, $2, $3, $4, $5) RETURNING id, created_at"
  params := [.int s.userId, .text s.tokenHash, .text s.clientIp, .text s.purpose.name,
    .option .instant s.expireAt]

/-- Find the live session with a key. -/
def selectSession (id : Id) : Statement .session where
  text := "SELECT " ++ sessionColumns ++ " FROM user_sessions WHERE id = $1 AND deleted_at IS NULL"
  params := [.int id]

/-- List the live sessions of a user that run beyond an instant. -/
def selectActiveSessions (userId : Id) (now : Instant) : Statement .session where
  text := "SELECT " ++ sessionColumns ++ " FROM user_sessions WHERE user_id = $1 "
    ++ "AND expire_at > $2 AND deleted_at IS NULL ORDER BY id"
  params := [.int userId, .instant now]

/-- Mark the live session with a key as deleted. -/
def deleteSession (id : Id) : Statement .deletion where
  text := "UPDATE user_sessions SET deleted_at = NOW() WHERE id = $1 AND deleted_at IS NULL "
    ++ "RETURNING deleted_at"
  params := [.int id]

/-! ### Probes -/

/-- Probe the connection. -/
def probe : Statement .nothing where
  text := "SELECT 1"
  params := []

end Turnstile.Postgres
