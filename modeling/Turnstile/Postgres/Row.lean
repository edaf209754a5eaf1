import Turnstile.Postgres.Statement

namespace Turnstile.Postgres

/-!
# Rows

Reading records from the rows of an answer. Columns are read in order and the first that cannot be read
decides the fault. A record that has been read holds no password and no token in plain text.

* `readUser` and `readSession` read records.
* `theRow` and `firstRow?` take the row that counts out of an answer.
-/

/-! ### Columns -/

/-- How a fault names a column that is looked up by its name. -/
def named (column : String) : String := "\"" ++ column ++ "\""

/-- How a fault names a column that is looked up by its place. -/
def placed (place : Nat) : String := toString place

/-- A column that must not be null. -/
def required (column : String) : Option α → Except DriverFault α
  | some a => .ok a
  | none => .error (.column column .unexpectedNull)

/-- The purpose that a column holds. -/
def readPurpose (raw : Option String) : Except DriverFault Purpose := do
  let text ← required (named "purpose") raw
  match Purpose.parse text with
  | .ok purpose => return purpose
  | .error _ => throw (.column "purpose" .unprintable)

/-! ### Records -/

/-- Read a user. -/
def readUser (row : UserRow) : Except DriverFault User := do
  let id ← required (named "id") row.id
  let createdAt ← required (named "created_at") row.createdAt
  let emailVerified ← required (named "email_verified") row.emailVerified
  return { User.new with
    id
    createdAt := createdAt.toInstant
    deletedAt := row.deletedAt.map Timestamp.toInstant
    email := row.email
    emailVerified
    passwordHash := row.passwordHash
    givenNames := row.givenNames
    surname := row.surname }.refreshPasswordSet

/-- Read a session. -/
def readSession (row : SessionRow) : Except DriverFault Session := do
  let id ← required (named "id") row.id
  let createdAt ← required (named "created_at") row.createdAt
  let userId ← required (named "user_id") row.userId
  let tokenHash ← required (named "token_hash") row.tokenHash
  let clientIp ← required (named "client_ip") row.clientIp
  let purpose ← readPurpose row.purpose
  return { Session.new userId clientIp purpose with
    id
    createdAt := createdAt.toInstant
    deletedAt := row.deletedAt.map Timestamp.toInstant
    tokenHash
    expireAt := row.expireAt.map Timestamp.toInstant }

/-- Read the key and the time of creation of a new row. -/
def readKey (row : KeyRow) : Except DriverFault (Id × Instant) := do
  let id ← required (placed 0) row.id
  let createdAt ← required (placed 1) row.createdAt
  return (id, createdAt.toInstant)

/-- Read the time of a deletion. -/
def readDeletion (row : DeletionRow) : Except DriverFault Instant := do
  let deletedAt ← required (placed 0) row.deletedAt
  return deletedAt.toInstant

/-! ### Answers -/

/-- Read the first row of an answer, if there is one; further rows do not count. -/
def firstRow? (read : ρ → Except DriverFault α) : List ρ → Except DriverFault (Option α)
  | [] => .ok none
  | row :: _ => (read row).map some

/-- Read the first row of an answer that must have one. -/
def theRow (read : ρ → Except DriverFault α) : List ρ → Except DriverFault α
  | [] => .error .rowNotFound
  | row :: _ => read row

end Turnstile.Postgres
