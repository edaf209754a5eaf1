import Turnstile.Proofs.Postgres.Sequence
import Turnstile.Proofs.Store.Deleted

namespace Turnstile.Postgres

/-!
# Who a save adds on a server

Saving a user under a key is one statement, which inserts a row or replaces the live one that has the key. So
on a server a save adds a row for a key that no row has. In memory it does not: nobody is found under it.

* `Upserted` says what an accepted upsert does to a table and which rows it returns, and `Server.Upserts`
  holds of the servers that do so. `Server.tables` is one.
* `Saved` lists what can become of a save under a key, and `saved_of_upserts` is the proof.
* `save_unknown` and `Store.save_of_gone` are the two answers for a key that no row has.
-/

/-! ### The statement -/

/-- A row as a user is stored in it: the fields of the record, a time of creation, and no deletion. -/
structure UserRow.Stores (row : UserRow) (u : User) : Prop where
  id : row.id = some u.id
  createdAt : row.createdAt.isSome = true
  deletedAt : row.deletedAt = none
  email : row.email = u.email
  emailVerified : row.emailVerified = some u.emailVerified
  passwordHash : row.passwordHash = u.passwordHash
  givenNames : row.givenNames = u.givenNames
  surname : row.surname = u.surname

/-- A row that a user is stored in can be read. -/
theorem UserRow.Stores.exists_holds {row : UserRow} {u : User} (h : row.Stores u) : ∃ v, row.Holds v := by
  obtain ⟨t, ht⟩ := Option.isSome_iff_exists.1 h.createdAt
  exact ⟨{ User.new with
      id := u.id
      createdAt := t.toInstant
      email := u.email
      emailVerified := u.emailVerified
      passwordHash := u.passwordHash
      givenNames := u.givenNames
      surname := u.surname }.refreshPasswordSet,
    h.id, ⟨t, ht, rfl⟩, by rw [h.deletedAt]; rfl, h.email, h.emailVerified, h.passwordHash, h.givenNames,
    h.surname, by rw [h.passwordHash]; rfl, rfl⟩

/-- What an accepted upsert of a user does to a table: the rows that it returns, and the table behind it. -/
inductive Upserted (u : User) (table : List UserRow) : List UserRow → List UserRow → Prop where
  /-- No row has the key: the user is inserted. -/
  | inserted (row : UserRow) (unknown : ∀ other ∈ table, other.id ≠ some u.id) (stored : row.Stores u) :
      Upserted u table [row] (table ++ [row])
  /-- The live row that has the key is replaced. -/
  | replaced (old row : UserRow) (known : old ∈ table) (key : old.id = some u.id)
      (live : old.deletedAt = none) (stored : row.Stores u) :
      Upserted u table [row] (table.map fun other => if other.id = some u.id then row else other)
  /-- The row that has the key is marked as deleted, and is left alone. -/
  | skipped (old : UserRow) (known : old ∈ table) (key : old.id = some u.id)
      (deleted : old.deletedAt ≠ none) : Upserted u table [] table

/-- The server keeps a table of users, and upserts are accepted or refused as a whole. -/
structure Server.Upserts {σ : Type} (server : Server σ) (table : σ → List UserRow) : Prop where
  accepted : ∀ (u : User) (state : σ) (rows : List UserRow),
    (server.answer (.execute .user (upsertUser u)) state).1 = .ok rows →
    Upserted u (table state) rows (table (server.answer (.execute .user (upsertUser u)) state).2)
  refused : ∀ (u : User) (state : σ) (fault : DriverFault),
    (server.answer (.execute .user (upsertUser u)) state).1 = .error fault →
    table (server.answer (.execute .user (upsertUser u)) state).2 = table state

/-! ### Saving under a key -/

/-- What a save under a key comes back with, and the table behind it. -/
inductive Saved (u : User) (table : List UserRow) :
    Except RepositoryFailure Unit → List UserRow → Prop where
  | refused (fault : DriverFault) : Saved u table (.error (.ofDriver (UserCall.save u).context fault)) table
  /-- No row has the key: there is one more. -/
  | added (row : UserRow) (unknown : ∀ other ∈ table, other.id ≠ some u.id) (stored : row.Stores u) :
      Saved u table (.ok ()) (table ++ [row])
  /-- A live row has it: the rows have the same keys as before. -/
  | kept (old : UserRow) (known : old ∈ table) (key : old.id = some u.id) (live : old.deletedAt = none)
      (table' : List UserRow) (ids : table'.map UserRow.id = table.map UserRow.id) :
      Saved u table (.ok ()) table'
  /-- The row that has it is marked as deleted: the user is not found. -/
  | gone (old : UserRow) (known : old ∈ table) (key : old.id = some u.id) (deleted : old.deletedAt ≠ none) :
      Saved u table (.error (.notFound (UserCall.save u).context)) table

variable {σ : Type} {w : UnitOfWork σ} {table : σ → List UserRow} {u : User}

namespace UnitOfWork

variable (isOpen : w.isOpen = true) (key : u.id ≠ 0)

include isOpen key

/-- A save that the server refuses. -/
theorem save_of_refused {fault : DriverFault}
    (h : (w.connection.send (.execute .user (upsertUser u))).1 = .error fault) :
    (w.users (.save u)).1 = .error (.ofDriver (UserCall.save u).context fault) := by
  simp only [users, if_neg key, saveUser, query, execute, isOpen, if_true, h]
  rfl

/-- A save that the server accepts succeeds if a row comes back. -/
theorem save_of_accepted {rows : List UserRow} {found : Option User}
    (h : (w.connection.send (.execute .user (upsertUser u))).1 = .ok rows)
    (hread : FirstHolds UserRow.Holds rows found) :
    (w.users (.save u)).1 = found.elim (.error (.notFound (UserCall.save u).context)) fun _ => .ok () := by
  rw [← firstRow?_eq_ok_iff fun _ _ => readUser_eq_ok_iff] at hread
  simp only [users, if_neg key, saveUser, query, execute, isOpen, if_true, h]
  show (into u (((classify _ (firstRow? readUser rows)).bind _), _) _).1 = _
  rw [hread]
  cases found <;> rfl

/-- What a save under a key leaves behind. -/
theorem save_unit :
    (w.users (.save u)).2.2 = ⟨(w.connection.send (.execute .user (upsertUser u))).2, true⟩ := by
  have hopen := answer_open isOpen (.users (.save u))
  rwa [Ask.command_save_of_ne key] at hopen

end UnitOfWork

/-- **A save under a key**, on a server that upserts: what it comes back with, and what becomes of the
    table. -/
theorem saved_of_upserts (upserts : w.connection.server.Upserts table) (isOpen : w.isOpen = true)
    (key : u.id ≠ 0) : Saved u (table w.connection.state) (w.users (.save u)).1
      (table (w.users (.save u)).2.2.connection.state) := by
  have hstate : (w.users (.save u)).2.2.connection.state
      = (w.connection.server.answer (.execute .user (upsertUser u)) w.connection.state).2 := by
    rw [UnitOfWork.save_unit isOpen key]
    rfl
  rw [hstate]
  cases hanswer : (w.connection.server.answer (.execute .user (upsertUser u)) w.connection.state).1 with
  | error fault =>
    rw [UnitOfWork.save_of_refused isOpen key hanswer, upserts.refused u _ fault hanswer]
    exact .refused fault
  | ok rows =>
    have hupserted := upserts.accepted u _ rows hanswer
    generalize table (w.connection.server.answer _ w.connection.state).2 = table' at hupserted ⊢
    -- a row that comes back can be read, since it was stored in this statement
    cases hupserted with
    | inserted row unknown stored =>
      obtain ⟨v, hv⟩ := stored.exists_holds
      rw [UnitOfWork.save_of_accepted isOpen key hanswer (.some [] hv)]
      exact .added row unknown stored
    | replaced old row known id live stored =>
      obtain ⟨v, hv⟩ := stored.exists_holds
      rw [UnitOfWork.save_of_accepted isOpen key hanswer (.some [] hv)]
      refine .kept old known id live _ ?_
      -- only rows that had the key are replaced, and so the keys are the same
      rw [List.map_map]
      refine List.map_congr_left fun other _ => ?_
      show UserRow.id (if _ then _ else _) = _
      split
      · next hid => rw [stored.id, hid]
      · rfl
    | skipped old known id deleted =>
      rw [UnitOfWork.save_of_accepted isOpen key hanswer .none]
      exact .gone old known id deleted

/-- **A save under a key that no row has** adds the user, unless the server refuses it. In memory, nobody is
    found under such a key (`Store.save_of_gone`). -/
theorem save_unknown (upserts : w.connection.server.Upserts table) (isOpen : w.isOpen = true)
    (key : u.id ≠ 0) (unknown : ∀ row ∈ table w.connection.state, row.id ≠ some u.id) :
    (∃ row : UserRow, row.Stores u ∧ (w.users (.save u)).1 = .ok () ∧
      table (w.users (.save u)).2.2.connection.state = table w.connection.state ++ [row]) ∨
    ∃ fault, (w.users (.save u)).1 = .error (.ofDriver (UserCall.save u).context fault) ∧
      table (w.users (.save u)).2.2.connection.state = table w.connection.state := by
  have hsaved := saved_of_upserts upserts isOpen key
  generalize (w.users (.save u)).1 = result, table (w.users (.save u)).2.2.connection.state = table'
    at hsaved ⊢
  cases hsaved with
  | refused fault => exact .inr ⟨fault, rfl, rfl⟩
  | added row _ stored => exact .inl ⟨row, stored, rfl, rfl⟩
  | kept old known id | gone old known id => exact absurd id (unknown old known)

/-! ### A server -/

/-- The text that a parameter holds, if it is not null. -/
def Param.text? : Param → Option String
  | text s => some s
  | _ => none

/-- The row that the values of an upsert make. -/
def rowOf? : List Param → Option UserRow
  | [.int id, email, .flag emailVerified, passwordHash, givenNames, surname] =>
    some ⟨some id, some ⟨0⟩, none, email.text?, some emailVerified, passwordHash.text?, givenNames.text?,
      surname.text?⟩
  | _ => none

/-- Insert a row, or replace the live row that has its key: the rows that come back, and the table. -/
def upsertInto (table : List UserRow) (row : UserRow) : List UserRow × List UserRow :=
  match table.find? (·.id == row.id) with
  | none => ([row], table ++ [row])
  | some old =>
    if old.deletedAt.isSome then ([], table)
    else ([row], table.map fun other => if other.id = row.id then row else other)

/-- A server that keeps a table of users. Of all statements on it, it knows the upsert. -/
def Server.tables : Server (List UserRow) where
  answer
    | .execute .user statement, table =>
      match rowOf? statement.params with
      | none => (.error (.protocol "not an upsert"), table)
      | some row => (.ok (upsertInto table row).1, (upsertInto table row).2)
    | .execute .., table => (.ok [], table)
    | .begin, table | .commit, table | .rollback, table | .script _, table => (.ok (), table)

theorem text?_option (s : Option String) : (Param.option .text s).text? = s := by
  cases s <;> rfl

theorem upserted_upsertInto {table : List UserRow} {row : UserRow} (stored : row.Stores u) :
    Upserted u table (upsertInto table row).1 (upsertInto table row).2 := by
  unfold upsertInto
  cases hfind : table.find? (·.id == row.id) with
  | none =>
    refine .inserted row (fun other hother => ?_) stored
    have hne := List.find?_eq_none.1 hfind other hother
    rwa [beq_iff_eq, stored.id] at hne
  | some old =>
    have hknown := List.mem_of_find?_eq_some hfind
    have hid : old.id = some u.id := by
      have hsame := List.find?_some hfind
      rwa [beq_iff_eq, stored.id] at hsame
    simp only
    split
    · next hdeleted => exact .skipped old hknown hid (Option.isSome_iff_ne_none.1 hdeleted)
    · next hlive =>
      rw [stored.id]
      exact .replaced old row hknown hid (Option.not_isSome_iff_eq_none.1 hlive) stored

/-- **Such a server upserts**, whatever is in its table. -/
theorem upserts_tables : Server.tables.Upserts id := by
  have hanswer (u : User) (table : List UserRow) : ∃ row, row.Stores u ∧
      Server.tables.answer (.execute .user (upsertUser u)) table
        = (.ok (upsertInto table row).1, (upsertInto table row).2) :=
    ⟨_, ⟨rfl, rfl, rfl, text?_option _, rfl, text?_option _, text?_option _, text?_option _⟩, rfl⟩
  refine ⟨fun u table rows h => ?_, fun u table fault h => ?_⟩
  · obtain ⟨row, stored, hrow⟩ := hanswer u table
    rw [hrow] at h ⊢
    cases h
    exact upserted_upsertInto stored
  · obtain ⟨row, -, hrow⟩ := hanswer u table
    rw [hrow] at h
    cases h

/-- Nobody has the key 7: the server adds the user, and in memory nobody is found. -/
example : ((UnitOfWork.mk (.new Server.tables []) true).users (.save { User.new with id := 7 })).1 = .ok () ∧
    (Store.empty.callUsers (.save { User.new with id := 7 })).1 = .error (.notFound "user repo save") :=
  ⟨rfl, rfl⟩

end Turnstile.Postgres
