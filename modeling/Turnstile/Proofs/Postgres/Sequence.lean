import Turnstile.Postgres.UnitOfWork
import Turnstile.Proofs.Postgres.Reading

namespace Turnstile.Postgres

/-!
# Calls one after the other

What the calls of one unit of work send and return when each of them comes behind the one before it.

* `Ask.command` is what a call sends, and `Ask.ends` says whether it ends the transaction.
* `answer_closed` and `answer_open` are all that a call can do to a unit of work.
* `record_of_error` says that a failure leaves the record that a call is lent as it was. `Ask.Yields`
  says what a success makes of the server's answer: what it returns, and what becomes of the record.
  `yields_of_ok` is the proof.
* `trail` is what calls send: everything up to the first that ends the transaction. `sent_run` is the proof.
-/

namespace Ask

/-- What a call sends if the transaction is open. -/
def command : Ask → Command
  | users (.create u) => .execute .user (insertUser u)
  | users (.save u) => .execute .user (if u.id = 0 then insertUser u else upsertUser u)
  | users (.getById id) => .execute .user (selectUser id)
  | users (.getByEmail email) => .execute .user (selectUserByEmail email)
  | users (.delete u) => .execute .deletion (deleteUser u.id)
  | sessions (.create s) => .execute .key (insertSession s)
  | sessions (.getById id) => .execute .session (selectSession id)
  | sessions (.listActive userId now) => .execute .session (selectActiveSessions userId now)
  | sessions (.delete s) => .execute .deletion (deleteSession s.id)
  | backend .commit => .commit
  | backend .rollback => .rollback
  | backend .ping => .execute .nothing probe

/-- Whether a call ends the transaction. -/
def ends : Ask → Bool
  | backend .commit | backend .rollback => true
  | backend .ping | users _ | sessions _ => false

/-- What a call that succeeds makes of the server's answer. A lookup returns what the rows hold. The caller's
    record is as it was but for what the server has chosen, and this is what the first row holds: the key and
    the time of creation, or the time of a deletion, which a row that was not live does not have. -/
def Yields : (ask : Ask) → ask.command.Answer → ask.Result → ask.Record → Prop
  | users (.create u), rows, _, v => ∃ stored, FirstHolds UserRow.Holds rows (some stored) ∧
      v = { u with id := stored.id, createdAt := stored.createdAt }.refreshPasswordSet
  | users (.save u), rows, _, v => ∃ stored, FirstHolds UserRow.Holds rows (some stored) ∧
      v = { u with
        id := if u.id = 0 then stored.id else u.id
        createdAt := stored.createdAt }.refreshPasswordSet
  | users (.delete u), rows, _, v => ∃ marked, FirstHolds DeletionRow.Holds rows marked ∧
      v = { u with deletedAt := marked <|> u.deletedAt }
  | users (.getById _), rows, found, _ | users (.getByEmail _), rows, found, _ =>
      FirstHolds UserRow.Holds rows found
  | sessions (.create s), rows, _, z => ∃ key, FirstHolds KeyRow.Holds rows (some key) ∧
      z = { s with id := key.1, createdAt := key.2 }
  | sessions (.getById _), rows, found, _ => FirstHolds SessionRow.Holds rows found
  | sessions (.listActive ..), rows, found, _ => List.Forall₂ SessionRow.Holds rows found
  | sessions (.delete s), rows, _, z => ∃ marked, FirstHolds DeletionRow.Holds rows marked ∧
      z = { s with deletedAt := marked <|> s.deletedAt }
  | backend _, _, _, _ => True

variable {ask : Ask}

/-- A call that ends the transaction sends a commit or a rollback. -/
theorem command_of_ends (h : ask.ends = true) : ask.command = .commit ∨ ask.command = .rollback := by
  cases ask with
  | users | sessions => cases h
  | backend operation =>
    cases operation with
    | commit => exact .inl rfl
    | rollback => exact .inr rfl
    | ping => cases h

/-- Every other call sends a statement. -/
theorem command_of_not_ends (h : ask.ends = false) :
    ∃ kind statement, ask.command = .execute kind statement := by
  cases ask with
  | users call => cases call <;> exact ⟨_, _, rfl⟩
  | sessions call => cases call <;> exact ⟨_, _, rfl⟩
  | backend operation =>
    cases operation with
    | commit | rollback => cases h
    | ping => exact ⟨_, _, rfl⟩

/-- Saving a user without a key is creating one. -/
theorem command_save {u : User} (h : u.id = 0) :
    (users (.save u)).command = .execute .user (insertUser u) := by
  rw [command, if_pos h]

theorem command_save_of_ne {u : User} (h : u.id ≠ 0) :
    (users (.save u)).command = .execute .user (upsertUser u) := by
  rw [command, if_neg h]

end Ask

namespace UnitOfWork

variable {σ ρ α : Type} {w : UnitOfWork σ} {ask : Ask} {context : String} {kind : RowKind}
  {statement : Statement kind} {read : List kind.Row → Except DriverFault α}
  {answer : Except RepositoryFailure α × UnitOfWork σ} {record : ρ} {change : α → ρ} {f : RepositoryFailure}

/-! ### One call -/

theorem query_closed (h : w.isOpen = false) :
    w.query context statement read = (.error (.closed context), w) := by
  simp [query, execute, h, Except.bind]

/-- A query succeeds if the transaction is open, the server has answered, and its answer can be read. -/
theorem query_eq_ok_iff {a : α} : (w.query context statement read).1 = .ok a ↔ w.isOpen = true ∧
    ∃ rows, (w.connection.send (.execute kind statement)).1 = .ok rows ∧ read rows = .ok a := by
  cases hopen : w.isOpen with
  | false => simp [query_closed hopen]
  | true =>
    simp only [query, execute, hopen, if_true, true_and]
    constructor
    · intro h
      obtain ⟨rows, hrows, h⟩ := Except.ok_of_bind h
      exact ⟨rows, Except.mapError_eq_ok_iff.1 hrows, Except.mapError_eq_ok_iff.1 h⟩
    · rintro ⟨rows, hrows, h⟩
      rw [hrows]
      exact Except.mapError_eq_ok_iff.2 h

theorem query_open (h : w.isOpen = true) :
    (w.query context statement read).2 = ⟨(w.connection.send (.execute kind statement)).2, true⟩ := by
  simp [query, execute, h]

@[simp] theorem into_unit : (into record answer change).2.2 = answer.2 := by
  obtain ⟨_ | a, w⟩ := answer <;> rfl

theorem returned_unit : (returned answer).2.2 = answer.2 := rfl

theorem into_of_error (h : (into record answer change).1 = .error f) :
    (into record answer change).2.1 = record := by
  obtain ⟨_ | a, w⟩ := answer
  · rfl
  · cases h

theorem into_of_ok (h : (into record answer change).1 = .ok ()) :
    ∃ a, answer.1 = .ok a ∧ (into record answer change).2.1 = change a := by
  obtain ⟨_ | a, w⟩ := answer
  · cases h
  · exact ⟨a, rfl, rfl⟩

theorem into_closed (h : w.isOpen = false) :
    into record (w.query context statement read) change = (.error (.closed context), record, w) := by
  rw [query_closed h]
  rfl

theorem saveUser_closed (h : w.isOpen = false) (u : User) :
    w.saveUser context u = (.error (.closed context), u, w) := by
  rw [saveUser, query_closed h]
  rfl

theorem saveUser_open (h : w.isOpen = true) (u : User) :
    (w.saveUser context u).2.2 = ⟨(w.connection.send (.execute .user (upsertUser u))).2, true⟩ := by
  rw [saveUser, into_unit]
  show (w.query context (upsertUser u) (firstRow? readUser)).2 = _
  exact query_open h

theorem returned_closed (h : w.isOpen = false) :
    returned (w.query context statement read) = (.error (.closed context), (), w) := by
  rw [query_closed h]
  rfl

theorem answer_save {u : User} (h : u.id = 0) :
    w.answer (.users (.save u)) = w.createUser (UserCall.save u).context u := if_pos h

theorem answer_save_of_ne {u : User} (h : u.id ≠ 0) :
    w.answer (.users (.save u)) = w.saveUser (UserCall.save u).context u := if_neg h

/-- **Closed.** Behind the end, a call sends nothing and is told so under its own name. -/
theorem answer_closed (h : w.isOpen = false) (ask : Ask) :
    w.answer ask = (.error (.closed ask.context), ask.record, w) := by
  match ask with
  | .users (.save u) =>
    by_cases hid : u.id = 0
    · rw [answer_save hid]
      exact into_closed h
    · rw [answer_save_of_ne hid]
      exact saveUser_closed h u
  | .users (.create _) | .users (.delete _) | .sessions (.create _) | .sessions (.delete _) =>
    exact into_closed h
  | .users (.getById _) | .users (.getByEmail _) | .sessions (.getById _) | .sessions (.listActive ..)
  | .backend .ping => exact returned_closed h
  | .backend .commit | .backend .rollback =>
    simp [UnitOfWork.answer, backend, finish, h, returned, Ask.context, Ask.record]

/-- **Open.** Before the end, a call sends its command and, unless it is the end, leaves the transaction
    open, whatever the server answers. -/
theorem answer_open (h : w.isOpen = true) (ask : Ask) :
    (w.answer ask).2.2 = ⟨(w.connection.send ask.command).2, !ask.ends⟩ := by
  match ask with
  | .users (.save u) =>
    by_cases hid : u.id = 0
    · rw [answer_save hid, Ask.command_save hid]
      exact into_unit.trans (query_open h)
    · rw [answer_save_of_ne hid, Ask.command_save_of_ne hid]
      exact saveUser_open h u
  | .users (.create _) | .users (.delete _) | .sessions (.create _) | .sessions (.delete _) =>
    exact into_unit.trans (query_open h)
  | .users (.getById _) | .users (.getByEmail _) | .sessions (.getById _) | .sessions (.listActive ..)
  | .backend .ping => exact returned_unit.trans (query_open h)
  | .backend .commit | .backend .rollback =>
    simp [UnitOfWork.answer, backend, finish, h, returned, Ask.command, Ask.ends]

/-- **A failure leaves the caller's record as it was.** -/
theorem record_of_error (h : (w.answer ask).1 = .error f) : (w.answer ask).2.1 = ask.record := by
  match ask with
  | .users (.save u) =>
    by_cases hid : u.id = 0
    · rw [answer_save hid] at h ⊢
      exact into_of_error h
    · rw [answer_save_of_ne hid] at h ⊢
      exact into_of_error h
  | .users (.create _) | .users (.delete _) | .sessions (.create _) | .sessions (.delete _) =>
    exact into_of_error h
  | .users (.getById _) | .users (.getByEmail _) | .sessions (.getById _) | .sessions (.listActive ..)
  | .backend _ => rfl

/-- A statement whose answer goes into the caller's record. -/
theorem answered_of_into (h : (into record (w.query context statement read) change).1 = .ok ()) :
    ∃ rows a, (w.connection.send (.execute kind statement)).1 = .ok rows ∧ read rows = .ok a ∧
      (into record (w.query context statement read) change).2.1 = change a := by
  obtain ⟨a, ha, hrecord⟩ := into_of_ok h
  obtain ⟨-, rows, hrows, hread⟩ := query_eq_ok_iff.1 ha
  exact ⟨rows, a, hrows, hread, hrecord⟩

/-- Ending a transaction succeeds if the server says so. -/
theorem answered_of_finish {command : Command} (h : (w.finish context command).1 = .ok ()) :
    ∃ reply, (w.connection.send command).1 = .ok reply := by
  cases hopen : w.isOpen with
  | false => simp [finish, hopen] at h
  | true =>
    simp only [finish, hopen, if_true] at h
    exact Except.map_unit_eq_ok_iff.1 (Except.mapError_eq_ok_iff.1 h)

/-- Replacing a row succeeds if a row comes back. -/
theorem saveUser_of_ok {u : User} (h : (w.saveUser context u).1 = .ok ()) :
    ∃ rows stored, (w.connection.send (.execute .user (upsertUser u))).1 = .ok rows ∧
      FirstHolds UserRow.Holds rows (some stored) ∧
      (w.saveUser context u).2.1 = { u with createdAt := stored.createdAt }.refreshPasswordSet := by
  obtain ⟨stored, hstored, hrecord⟩ := into_of_ok h
  obtain ⟨found, hfound, hsome⟩ := Except.ok_of_bind hstored
  obtain ⟨-, rows, hrows, hread⟩ := query_eq_ok_iff.1 hfound
  cases found with
  | none => cases hsome
  | some row =>
    cases hsome
    exact ⟨rows, stored, hrows, (firstRow?_eq_ok_iff fun _ _ => readUser_eq_ok_iff).1 hread, hrecord⟩

/-- **A success makes of the server's answer what the call is for**, and writes nothing else into the
    record. -/
theorem yields_of_ok {result : ask.Result} (h : (w.answer ask).1 = .ok result) :
    ∃ reply, (w.connection.send ask.command).1 = .ok reply ∧ ask.Yields reply result (w.answer ask).2.1 := by
  match ask with
  | .users (.create u) =>
    obtain ⟨rows, stored, hrows, hread, hrecord⟩ := answered_of_into h
    exact ⟨rows, hrows, stored, (theRow_eq_ok_iff fun _ _ => readUser_eq_ok_iff).1 hread, hrecord⟩
  | .users (.save u) =>
    -- without a key this is a creation, and the server chooses one
    by_cases hid : u.id = 0
    · rw [answer_save hid] at h ⊢
      obtain ⟨rows, stored, hrows, hread, hrecord⟩ := answered_of_into h
      refine ⟨rows, ?_, stored, (theRow_eq_ok_iff fun _ _ => readUser_eq_ok_iff).1 hread, ?_⟩
      · show (w.connection.send (.execute .user (if u.id = 0 then _ else _))).1 = _
        rw [if_pos hid]
        exact hrows
      · rw [if_pos hid]
        exact hrecord
    · rw [answer_save_of_ne hid] at h ⊢
      obtain ⟨rows, stored, hrows, hfirst, hrecord⟩ := saveUser_of_ok h
      refine ⟨rows, ?_, stored, hfirst, ?_⟩
      · show (w.connection.send (.execute .user (if u.id = 0 then _ else _))).1 = _
        rw [if_neg hid]
        exact hrows
      · rw [if_neg hid]
        exact hrecord
  | .users (.delete _) | .sessions (.delete _) =>
    obtain ⟨rows, marked, hrows, hread, hrecord⟩ := answered_of_into h
    exact ⟨rows, hrows, marked, (firstRow?_eq_ok_iff fun _ _ => readDeletion_eq_ok_iff).1 hread, hrecord⟩
  | .sessions (.create s) =>
    obtain ⟨rows, key, hrows, hread, hrecord⟩ := answered_of_into h
    exact ⟨rows, hrows, key, (theRow_eq_ok_iff fun _ _ => readKey_eq_ok_iff).1 hread, hrecord⟩
  | .users (.getById _) | .users (.getByEmail _) =>
    obtain ⟨-, rows, hrows, hread⟩ := query_eq_ok_iff.1 h
    exact ⟨rows, hrows, (firstRow?_eq_ok_iff fun _ _ => readUser_eq_ok_iff).1 hread⟩
  | .sessions (.getById _) =>
    obtain ⟨-, rows, hrows, hread⟩ := query_eq_ok_iff.1 h
    exact ⟨rows, hrows, (firstRow?_eq_ok_iff fun _ _ => readSession_eq_ok_iff).1 hread⟩
  | .sessions (.listActive ..) =>
    obtain ⟨-, rows, hrows, hread⟩ := query_eq_ok_iff.1 h
    exact ⟨rows, hrows, (mapM_eq_ok_iff fun _ _ => readSession_eq_ok_iff).1 hread⟩
  | .backend .ping =>
    obtain ⟨-, rows, hrows, -⟩ := query_eq_ok_iff.1 h
    exact ⟨rows, hrows, trivial⟩
  | .backend .commit | .backend .rollback =>
    obtain ⟨reply, hreply⟩ := answered_of_finish h
    exact ⟨reply, hreply, trivial⟩

/-! ### Calls in a row -/

/-- The commands of calls, up to and with the first that ends the transaction. -/
def trail : List Ask → List Command
  | [] => []
  | ask :: asks => ask.command :: if ask.ends then [] else trail asks

variable {asks more : List Ask}

/-- **The shape of a trail**: statements, then at most one commit or rollback. -/
theorem trail_shape (asks : List Ask) : ∃ statements closing, trail asks = statements ++ closing ∧
    (∀ command ∈ statements, ∃ kind statement, command = .execute kind statement) ∧
    (closing = [] ∨ closing = [.commit] ∨ closing = [.rollback]) := by
  induction asks with
  | nil => exact ⟨[], [], rfl, nofun, .inl rfl⟩
  | cons ask asks ih =>
    by_cases hends : ask.ends = true
    · refine ⟨[], [ask.command], by simp [trail, hends], nofun, ?_⟩
      rcases Ask.command_of_ends hends with h | h
      · exact .inr (.inl (congrArg ([·]) h))
      · exact .inr (.inr (congrArg ([·]) h))
    · obtain ⟨statements, closing, htrail, hstatements, hclosing⟩ := ih
      refine ⟨ask.command :: statements, closing, by simp [trail, hends, htrail], ?_, hclosing⟩
      intro command hmem
      rcases List.mem_cons.1 hmem with rfl | hmem
      · exact Ask.command_of_not_ends (Bool.eq_false_iff.2 hends)
      · exact hstatements command hmem

theorem run_append : (w.run (asks ++ more)).2 = ((w.run asks).2.run more).2 := by
  induction asks generalizing w with
  | nil => rfl
  | cons ask asks ih => exact ih

theorem run_closed (h : w.isOpen = false) : (w.run asks).2 = w := by
  induction asks with
  | nil => rfl
  | cons ask asks ih =>
    show ((w.answer ask).2.2.run asks).2 = w
    rw [answer_closed h]
    exact ih

/-- The transaction is open as long as no call has ended it. -/
theorem isOpen_run (h : w.isOpen = true) :
    (w.run asks).2.isOpen = true ↔ ∀ ask ∈ asks, ask.ends = false := by
  induction asks generalizing w with
  | nil => simpa [run] using h
  | cons ask asks ih =>
    show ((w.answer ask).2.2.run asks).2.isOpen = true ↔ _
    rw [List.forall_mem_cons, answer_open h]
    cases hends : ask.ends with
    | false => simp [ih]
    | true => simp [run_closed]

/-- **What calls have sent.** -/
theorem sent_run (h : w.isOpen = true) :
    (w.run asks).2.connection.sent = w.connection.sent ++ trail asks := by
  induction asks generalizing w with
  | nil => simp [run, trail]
  | cons ask asks ih =>
    show ((w.answer ask).2.2.run asks).2.connection.sent = _
    rw [answer_open h, trail]
    cases hends : ask.ends with
    | false => simp [ih, Connection.send]
    | true => simp [run_closed, Connection.send]

end UnitOfWork

end Turnstile.Postgres
