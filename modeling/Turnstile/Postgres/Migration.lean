import Turnstile.Postgres.UnitOfWork

namespace Turnstile.Postgres

/-!
# Migrations

The scripts that build the tables. Each is applied once, in a transaction of its own, in the order of the
versions. A database on which another script was applied under a known version, or a script of an unknown
version, or on which a script was not finished, is left alone.

* `migrations` lists the scripts.
* `History.migrate` applies those that the database has not recorded.
-/

/-- A script with the version that it brings the tables to. -/
structure Migration where
  version : Nat
  script : String
  deriving DecidableEq, Repr

/-- The script for the table of users. Live addresses are unique; rows that are marked as deleted free
    theirs. -/
def createUsers : Migration where
  version := 20240101000001
  script := "CREATE TABLE users (
    id              BIGSERIAL PRIMARY KEY,
    created_at      TIMESTAMPTZ NOT NULL DEFAULT NOW(),
    deleted_at      TIMESTAMPTZ,
    email           TEXT,
    email_verified  BOOLEAN NOT NULL DEFAULT FALSE,
    password_hash   TEXT,
    given_names     TEXT,
    surname         TEXT
);

-- Live emails are unique; soft-deleted rows release their address.
CREATE UNIQUE INDEX uq_users_email ON users (email) WHERE deleted_at IS NULL;
CREATE UNIQUE INDEX uq_users_password_hash ON users (password_hash);
CREATE INDEX idx_users_deleted_at ON users (deleted_at);
CREATE INDEX idx_users_given_names ON users (given_names);
CREATE INDEX idx_users_surname ON users (surname);
"

/-- The script for the table of sessions. -/
def createSessions : Migration where
  version := 20240101000002
  script := "CREATE TABLE user_sessions (
    id          BIGSERIAL PRIMARY KEY,
    created_at  TIMESTAMPTZ NOT NULL DEFAULT NOW(),
    deleted_at  TIMESTAMPTZ,
    user_id     BIGINT NOT NULL REFERENCES users (id),
    token_hash  TEXT NOT NULL,
    client_ip   TEXT NOT NULL,
    purpose     TEXT NOT NULL,
    expire_at   TIMESTAMPTZ
);

CREATE UNIQUE INDEX uq_user_sessions_token_hash ON user_sessions (token_hash);
CREATE INDEX idx_user_sessions_user_id ON user_sessions (user_id);
CREATE INDEX idx_user_sessions_client_ip ON user_sessions (client_ip);
CREATE INDEX idx_user_sessions_purpose ON user_sessions (purpose);
CREATE INDEX idx_user_sessions_deleted_at ON user_sessions (deleted_at);
"

/-- All scripts, in order. -/
def migrations : List Migration := [createUsers, createSessions]

/-! ### What has been applied -/

/-- A version that the database has recorded, and whether its script is the one known here. -/
structure Applied where
  version : Nat
  isUnchanged : Bool
  deriving DecidableEq, Repr

/-- What the database has recorded: finished versions, and one that was begun and not finished. -/
structure History where
  applied : List Applied
  unfinished : Option Nat
  deriving DecidableEq, Repr

/-- Why the tables could not be brought up to date. -/
inductive MigrationFault where
  | connection (fault : DriverFault)
  | script (version : Nat) (fault : DriverFault)
  | unknown (version : Nat)
  | changed (version : Nat)
  | unfinished (version : Nat)
  deriving DecidableEq, Repr

/-- The wording of a fault. -/
def MigrationFault.message : MigrationFault → String
  | connection fault => "while executing migrations: " ++ fault.message
  | script version fault =>
    "while executing migration " ++ toString version ++ ": " ++ fault.message
  | unknown version =>
    "migration " ++ toString version
      ++ " was previously applied but is missing in the resolved migrations"
  | changed version =>
    "migration " ++ toString version ++ " was previously applied but has been modified"
  | unfinished version =>
    "migration " ++ toString version
      ++ " is partially applied; fix and remove row from \x60_sqlx_migrations\x60 table"

/-- Whether a script is still to be applied; one that was applied must be the same. -/
def History.isPending (h : History) (m : Migration) : Except MigrationFault Bool :=
  match h.applied.find? (·.version == m.version) with
  | none => .ok true
  | some applied => if applied.isUnchanged then .ok false else .error (.changed m.version)

/-- Whether the database can be migrated at all. -/
def History.check (h : History) (known : List Migration) : Except MigrationFault Unit :=
  match h.unfinished with
  | some version => .error (.unfinished version)
  | none =>
    match h.applied.find? fun a => !known.any (·.version == a.version) with
    | some applied => .error (.unknown applied.version)
    | none => .ok ()

/-! ### Applying scripts -/

/-- Send a command that a migration needs; `fault` says what its failure means. -/
def step (fault : DriverFault → MigrationFault) (k : Connection σ) (command : Command) :
    Except MigrationFault Unit × Connection σ :=
  let (answer, k) := k.send command
  ((answer.map fun _ => ()).mapError fault, k)

/-- Apply one script in a transaction of its own. -/
def Migration.apply (m : Migration) (k : Connection σ) : Except MigrationFault Unit × Connection σ :=
  match step .connection k .begin with
  | (.error fault, k) => (.error fault, k)
  | (.ok (), k) =>
    match step (.script m.version) k (.script m.script) with
    | (.error fault, k) => (.error fault, k)
    | (.ok (), k) => step .connection k .commit

/-- Apply what is still to be applied, up to the first fault. -/
def History.applyAll (h : History) (k : Connection σ) :
    List Migration → Except MigrationFault Unit × Connection σ
  | [] => (.ok (), k)
  | m :: ms =>
    match h.isPending m with
    | .error fault => (.error fault, k)
    | .ok false => h.applyAll k ms
    | .ok true =>
      match m.apply k with
      | (.error fault, k) => (.error fault, k)
      | (.ok (), k) => h.applyAll k ms

/-- Bring the tables up to date. -/
def History.migrate (h : History) (k : Connection σ) : Except MigrationFault Unit × Connection σ :=
  match h.check migrations with
  | .error fault => (.error fault, k)
  | .ok () => h.applyAll k migrations

end Turnstile.Postgres
