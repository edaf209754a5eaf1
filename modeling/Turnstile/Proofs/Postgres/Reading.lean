import Mathlib.Data.List.Forall2
import Turnstile.Postgres.Row
import Turnstile.Proofs.Except

namespace Turnstile.Postgres

/-!
# What is read from a row

A record that was read holds what the columns of its row hold, and no plain text.

* `UserRow.Holds` and `SessionRow.Holds` compare a record with a row, column by column. A record is read
  from a row exactly if the row holds it (`readUser_eq_ok_iff`, `readSession_eq_ok_iff`).
* `FirstHolds` does so for the first row of an answer (`firstRow?_eq_ok_iff`, `theRow_eq_ok_iff`).
-/

/-! ### Columns -/

section Columns

variable {α : Type} {column : String} {raw : Option α} {a : α}

theorem required_eq_ok_iff : required column raw = .ok a ↔ raw = some a := by
  cases raw with
  | none => exact ⟨nofun, nofun⟩
  | some b => rw [required, Except.ok.injEq, Option.some.injEq]

theorem readPurpose_eq_ok_iff {raw : Option String} {purpose : Purpose} :
    readPurpose raw = .ok purpose ↔ ∃ text, raw = some text ∧ Purpose.parse text = .ok purpose := by
  constructor
  · intro h
    obtain ⟨text, htext, h⟩ := Except.ok_of_bind h
    refine ⟨text, required_eq_ok_iff.1 htext, ?_⟩
    cases hparse : Purpose.parse text with
    | error fault =>
      simp only [hparse] at h
      cases h
    | ok read =>
      simp only [hparse] at h
      cases h
      rfl
  · rintro ⟨text, rfl, hparse⟩
    simp only [readPurpose, required_eq_ok_iff.2 rfl]
    show Except.bind (.ok text) _ = _
    simp only [Except.bind, hparse]
    rfl

end Columns

/-! ### Records -/

/-- The columns of a row of users hold a user. -/
structure UserRow.Holds (row : UserRow) (u : User) : Prop where
  id : row.id = some u.id
  createdAt : ∃ t, row.createdAt = some t ∧ t.toInstant = u.createdAt
  deletedAt : row.deletedAt.map Timestamp.toInstant = u.deletedAt
  email : row.email = u.email
  emailVerified : row.emailVerified = some u.emailVerified
  passwordHash : row.passwordHash = u.passwordHash
  givenNames : row.givenNames = u.givenNames
  surname : row.surname = u.surname
  /-- Whether there is a password is told by the hash. -/
  passwordSet : u.passwordSet = row.passwordHash.isSome
  /-- There is no column for a plain password. -/
  plainless : u.password = none

/-- **A user is read** exactly if the row holds this user. -/
theorem readUser_eq_ok_iff {row : UserRow} {u : User} : readUser row = .ok u ↔ row.Holds u := by
  constructor
  · intro h
    obtain ⟨id, hid, h⟩ := Except.ok_of_bind h
    obtain ⟨createdAt, hcreatedAt, h⟩ := Except.ok_of_bind h
    obtain ⟨emailVerified, hverified, h⟩ := Except.ok_of_bind h
    cases h
    rw [required_eq_ok_iff] at hid hcreatedAt hverified
    exact ⟨hid, ⟨createdAt, hcreatedAt, rfl⟩, rfl, rfl, hverified, rfl, rfl, rfl, rfl, rfl⟩
  · intro h
    obtain ⟨createdAt, hcreatedAt, hinstant⟩ := h.createdAt
    simp only [readUser, required_eq_ok_iff.2 h.id, required_eq_ok_iff.2 hcreatedAt,
      required_eq_ok_iff.2 h.emailVerified]
    show Except.ok (User.refreshPasswordSet _) = .ok u
    rw [Except.ok.injEq]
    cases u
    simp only [User.refreshPasswordSet, User.mk.injEq, true_and]
    exact ⟨hinstant, h.deletedAt, h.email, h.plainless.symm, h.passwordHash, h.passwordSet.symm,
      h.givenNames, h.surname⟩

/-- The columns of a row of sessions hold a session. -/
structure SessionRow.Holds (row : SessionRow) (x : Session) : Prop where
  id : row.id = some x.id
  createdAt : ∃ t, row.createdAt = some t ∧ t.toInstant = x.createdAt
  deletedAt : row.deletedAt.map Timestamp.toInstant = x.deletedAt
  userId : row.userId = some x.userId
  tokenHash : row.tokenHash = some x.tokenHash
  clientIp : row.clientIp = some x.clientIp
  purpose : ∃ text, row.purpose = some text ∧ Purpose.parse text = .ok x.purpose
  expireAt : row.expireAt.map Timestamp.toInstant = x.expireAt
  /-- There is no column for a token. -/
  plainless : x.token = none

/-- **A session is read** exactly if the row holds this session. -/
theorem readSession_eq_ok_iff {row : SessionRow} {x : Session} :
    readSession row = .ok x ↔ row.Holds x := by
  constructor
  · intro h
    obtain ⟨id, hid, h⟩ := Except.ok_of_bind h
    obtain ⟨createdAt, hcreatedAt, h⟩ := Except.ok_of_bind h
    obtain ⟨userId, huserId, h⟩ := Except.ok_of_bind h
    obtain ⟨tokenHash, htokenHash, h⟩ := Except.ok_of_bind h
    obtain ⟨clientIp, hclientIp, h⟩ := Except.ok_of_bind h
    obtain ⟨purpose, hpurpose, h⟩ := Except.ok_of_bind h
    cases h
    rw [required_eq_ok_iff] at hid hcreatedAt huserId htokenHash hclientIp
    exact ⟨hid, ⟨createdAt, hcreatedAt, rfl⟩, rfl, huserId, htokenHash, hclientIp,
      readPurpose_eq_ok_iff.1 hpurpose, rfl, rfl⟩
  · intro h
    obtain ⟨createdAt, hcreatedAt, hinstant⟩ := h.createdAt
    simp only [readSession, required_eq_ok_iff.2 h.id, required_eq_ok_iff.2 hcreatedAt,
      required_eq_ok_iff.2 h.userId, required_eq_ok_iff.2 h.tokenHash, required_eq_ok_iff.2 h.clientIp,
      readPurpose_eq_ok_iff.2 h.purpose]
    show Except.ok _ = Except.ok x
    rw [Except.ok.injEq]
    cases x
    simp only [Session.new, Session.mk.injEq, true_and]
    exact ⟨hinstant, h.deletedAt, h.plainless.symm, h.expireAt⟩

/-- The columns that tell of a new row hold its key and its time of creation. -/
def KeyRow.Holds (row : KeyRow) (key : Id × Instant) : Prop :=
  row.id = some key.1 ∧ ∃ t, row.createdAt = some t ∧ t.toInstant = key.2

theorem readKey_eq_ok_iff {row : KeyRow} {key : Id × Instant} : readKey row = .ok key ↔ row.Holds key := by
  constructor
  · intro h
    obtain ⟨id, hid, h⟩ := Except.ok_of_bind h
    obtain ⟨createdAt, hcreatedAt, h⟩ := Except.ok_of_bind h
    cases h
    exact ⟨required_eq_ok_iff.1 hid, createdAt, required_eq_ok_iff.1 hcreatedAt, rfl⟩
  · obtain ⟨id, instant⟩ := key
    rintro ⟨hid, createdAt, hcreatedAt, hinstant⟩
    cases hinstant
    simp only [readKey, required_eq_ok_iff.2 hid, required_eq_ok_iff.2 hcreatedAt]
    rfl

/-- The column that tells of a deletion holds its time. -/
def DeletionRow.Holds (row : DeletionRow) (instant : Instant) : Prop :=
  ∃ t, row.deletedAt = some t ∧ t.toInstant = instant

theorem readDeletion_eq_ok_iff {row : DeletionRow} {instant : Instant} :
    readDeletion row = .ok instant ↔ row.Holds instant := by
  constructor
  · intro h
    obtain ⟨t, ht, h⟩ := Except.ok_of_bind h
    cases h
    exact ⟨t, required_eq_ok_iff.1 ht, rfl⟩
  · rintro ⟨t, ht, rfl⟩
    simp only [readDeletion, required_eq_ok_iff.2 ht]
    rfl

/-! ### Answers -/

/-- The first row of an answer holds what was found; an answer without rows holds nothing. -/
inductive FirstHolds {ρ α : Type} (holds : ρ → α → Prop) : List ρ → Option α → Prop where
  | none : FirstHolds holds [] none
  | some {row : ρ} {a : α} (more : List ρ) (first : holds row a) : FirstHolds holds (row :: more) (some a)

section Answers

variable {ρ α : Type} {read : ρ → Except DriverFault α} {holds : ρ → α → Prop} {rows : List ρ}
  (hread : ∀ row a, read row = .ok a ↔ holds row a)

include hread

theorem firstRow?_eq_ok_iff {found : Option α} :
    firstRow? read rows = .ok found ↔ FirstHolds holds rows found := by
  cases rows with
  | nil =>
    constructor
    · intro h
      cases h
      exact .none
    · rintro ⟨⟩
      rfl
  | cons row more =>
    constructor
    · intro h
      cases hrow : read row with
      | error fault =>
        rw [firstRow?, hrow] at h
        cases h
      | ok a =>
        rw [firstRow?, hrow] at h
        cases h
        exact .some more ((hread row a).1 hrow)
    · rintro (_ | ⟨_, first⟩)
      rw [firstRow?, (hread row _).2 first]
      rfl

theorem theRow_eq_ok_iff {a : α} : theRow read rows = .ok a ↔ FirstHolds holds rows (some a) := by
  cases rows with
  | nil => exact ⟨nofun, nofun⟩
  | cons row more =>
    rw [theRow, hread row a]
    constructor
    · exact .some more
    · rintro (_ | ⟨_, first⟩)
      exact first

/-- All rows of an answer are read, each in its place. -/
theorem mapM_eq_ok_iff {found : List α} : rows.mapM read = .ok found ↔ List.Forall₂ holds rows found := by
  induction rows generalizing found with
  | nil =>
    rw [List.forall₂_nil_left_iff]
    exact ⟨fun h => (Except.ok.inj h).symm, fun h => h ▸ rfl⟩
  | cons row rows ih =>
    rw [List.mapM_cons, List.forall₂_cons_left_iff]
    constructor
    · intro h
      obtain ⟨a, ha, h⟩ := Except.ok_of_bind h
      obtain ⟨rest, hrest, h⟩ := Except.ok_of_bind h
      cases h
      exact ⟨a, rest, (hread row a).1 ha, ih.1 hrest, rfl⟩
    · rintro ⟨a, rest, ha, hrest, rfl⟩
      rw [(hread row a).2 ha, ih.2 hrest]
      rfl

end Answers

end Turnstile.Postgres
