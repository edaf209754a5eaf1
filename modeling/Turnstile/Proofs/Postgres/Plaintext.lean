import Turnstile.Proofs.Postgres.Sequence
import Turnstile.Proofs.Store.Plaintext

namespace Turnstile.Postgres

/-!
# Plain text never reaches the tables

A password and a token in plain text are on records in memory only, whichever of the two kinds of tables is
behind the calls.

* `Ask.withPlain` puts another plain text on the record of a call. What the call would send is the same
  (`Ask.command_withPlain`), and so is everything else but for the caller's record (`run_withPlain`).
* `Ask.Path` is the way that a call takes. It decides the text of the statement, and `Ask.values` are what
  travels beside it (`Ask.command_of_path`).
* What lookups find on the server has no plain text (`UnitOfWork.user_of_query` and its companions).
* `plaintext_hidden` puts this together with what holds of the store in memory.
-/

/-! ### Calls that differ in plain text -/

namespace Ask

/-- The call, with another plain text on the record that it brings. -/
def withPlain (plain : Option String) : Ask → Ask
  | users call => users (call.withPlain plain)
  | sessions call => sessions (call.withPlain plain)
  | backend operation => backend operation

/-- What is sent does not tell of plain text. -/
theorem command_withPlain (plain : Option String) (ask : Ask) :
    (ask.withPlain plain).command = ask.command := by
  cases ask with
  | users call => cases call <;> rfl
  | sessions call => cases call <;> rfl
  | backend operation => rfl

end Ask

namespace UnitOfWork

/-- An exchange, with another plain text on the records. -/
def Exchange.withPlain (plain : Option String) : Exchange → Exchange
  | ⟨.users (.create u), result, v⟩ =>
    ⟨.users (.create { u with password := plain }), result, { v with password := plain }⟩
  | ⟨.users (.save u), result, v⟩ =>
    ⟨.users (.save { u with password := plain }), result, { v with password := plain }⟩
  | ⟨.users (.delete u), result, v⟩ =>
    ⟨.users (.delete { u with password := plain }), result, { v with password := plain }⟩
  | ⟨.sessions (.create x), result, z⟩ =>
    ⟨.sessions (.create { x with token := plain }), result, { z with token := plain }⟩
  | ⟨.sessions (.delete x), result, z⟩ =>
    ⟨.sessions (.delete { x with token := plain }), result, { z with token := plain }⟩
  | exchange => exchange

variable {σ ρ α : Type}

/-- A call with its answer, and the unit of work behind it. -/
def told (ask : Ask) (answer : Except RepositoryFailure ask.Result × ask.Record × UnitOfWork σ) :
    Exchange × UnitOfWork σ := (⟨ask, answer.1, answer.2.1⟩, answer.2.2)

/-- What the answer leaves alone on the caller's record may as well be changed behind it. -/
theorem into_map (f : ρ → ρ) (record : ρ) (answer : Except RepositoryFailure α × UnitOfWork σ)
    (change : α → ρ) : into (f record) answer (fun a => f (change a))
      = ((into record answer change).1, f (into record answer change).2.1,
        (into record answer change).2.2) := by
  obtain ⟨_ | a, w⟩ := answer <;> rfl

variable (w : UnitOfWork σ) (plain : Option String)

theorem createUser_withPlain (context : String) (u : User) :
    w.createUser context { u with password := plain }
      = ((w.createUser context u).1, { (w.createUser context u).2.1 with password := plain },
        (w.createUser context u).2.2) := by
  unfold createUser
  exact into_map (fun v : User => { v with password := plain }) u
    (w.query context (insertUser u) (theRow readUser))
    fun row : User => { u with id := row.id, createdAt := row.createdAt }.refreshPasswordSet

theorem saveUser_withPlain (context : String) (u : User) :
    w.saveUser context { u with password := plain }
      = ((w.saveUser context u).1, { (w.saveUser context u).2.1 with password := plain },
        (w.saveUser context u).2.2) := by
  unfold saveUser
  exact into_map (fun v : User => { v with password := plain }) u _
    fun row : User => { u with createdAt := row.createdAt }.refreshPasswordSet

/-- **One call**: all that is different is the plain text on the caller's record. -/
theorem told_withPlain (ask : Ask) :
    told (ask.withPlain plain) (w.answer (ask.withPlain plain))
      = ((told ask (w.answer ask)).1.withPlain plain, (told ask (w.answer ask)).2) := by
  match ask with
  | .users (.create u) =>
    exact congrArg (told (.users (.create { u with password := plain })))
      (w.createUser_withPlain plain (UserCall.create u).context u)
  | .users (.save u) =>
    have hsave : w.users (.save { u with password := plain })
        = ((w.users (.save u)).1, { (w.users (.save u)).2.1 with password := plain },
          (w.users (.save u)).2.2) := by
      by_cases key : u.id = 0
      · simp only [users, if_pos key]
        exact w.createUser_withPlain plain (UserCall.save u).context u
      · simp only [users, if_neg key]
        exact w.saveUser_withPlain plain (UserCall.save u).context u
    exact congrArg (told (.users (.save { u with password := plain }))) hsave
  | .users (.delete u) =>
    exact congrArg (told (.users (.delete { u with password := plain })))
      (into_map (fun v : User => { v with password := plain }) u
        (w.query (UserCall.delete u).context (deleteUser u.id) (firstRow? readDeletion))
        fun at? => { u with deletedAt := at? <|> u.deletedAt })
  | .sessions (.create x) =>
    exact congrArg (told (.sessions (.create { x with token := plain })))
      (into_map (fun z : Session => { z with token := plain }) x
        (w.query (SessionCall.create x).context (insertSession x) (theRow readKey))
        fun key => { x with id := key.1, createdAt := key.2 })
  | .sessions (.delete x) =>
    exact congrArg (told (.sessions (.delete { x with token := plain })))
      (into_map (fun z : Session => { z with token := plain }) x
        (w.query (SessionCall.delete x).context (deleteSession x.id) (firstRow? readDeletion))
        fun at? => { x with deletedAt := at? <|> x.deletedAt })
  | .users (.getById _) | .users (.getByEmail _) | .sessions (.getById _) | .sessions (.listActive ..)
  | .backend _ => rfl

/-- **Calls one after the other**, each with a plain text to put on its record: nothing else is sent, the
    server is in the same state, and all that comes back differs in the plain text only. -/
theorem run_withPlain (asks : List (Ask × Option String)) :
    w.run (asks.map fun q => q.1.withPlain q.2)
      = (List.zipWith Exchange.withPlain (asks.map (·.2)) (w.run (asks.map (·.1))).1,
        (w.run (asks.map (·.1))).2) := by
  induction asks generalizing w with
  | nil => rfl
  | cons q asks ih =>
    obtain ⟨ask, plain⟩ := q
    have hrun (w : UnitOfWork σ) (ask : Ask) (asks : List Ask) : w.run (ask :: asks)
        = ((told ask (w.answer ask)).1 :: ((told ask (w.answer ask)).2.run asks).1,
          ((told ask (w.answer ask)).2.run asks).2) := rfl
    rw [List.map_cons, List.map_cons, List.map_cons, hrun, hrun, told_withPlain]
    simp only [ih, List.zipWith_cons_cons]

end UnitOfWork

/-! ### Texts and values -/

namespace Ask

/-- The ways that calls on the tables take. Saving takes one of two, by whether there is a key. -/
inductive Path where
  | createUser
  | saveNewUser
  | saveUser
  | getUser
  | getUserByEmail
  | deleteUser
  | createSession
  | getSession
  | listActive
  | deleteSession
  deriving DecidableEq

/-- The way that a call takes, if it is on the tables. -/
def path? : Ask → Option Path
  | users (.create _) => some .createUser
  | users (.save u) => some (if u.id = 0 then .saveNewUser else .saveUser)
  | users (.getById _) => some .getUser
  | users (.getByEmail _) => some .getUserByEmail
  | users (.delete _) => some .deleteUser
  | sessions (.create _) => some .createSession
  | sessions (.getById _) => some .getSession
  | sessions (.listActive ..) => some .listActive
  | sessions (.delete _) => some .deleteSession
  | backend _ => none

/-- The values that travel beside the text, one for each column that is written or looked for. -/
def values : Ask → List Param
  | users (.create u) =>
    [.option .text u.email, .flag u.emailVerified, .option .text u.passwordHash,
      .option .text u.givenNames, .option .text u.surname]
  | users (.save u) => (if u.id = 0 then [] else [.int u.id]) ++
    [.option .text u.email, .flag u.emailVerified, .option .text u.passwordHash,
      .option .text u.givenNames, .option .text u.surname]
  | users (.getById id) | sessions (.getById id) => [.int id]
  | users (.getByEmail email) => [.text email]
  | users (.delete u) => [.int u.id]
  | sessions (.create x) =>
    [.int x.userId, .text x.tokenHash, .text x.clientIp, .text x.purpose.name, .option .instant x.expireAt]
  | sessions (.listActive userId now) => [.int userId, .instant now]
  | sessions (.delete x) => [.int x.id]
  | backend _ => []

/-- The kind of rows that a way returns. -/
def Path.kind : Path → RowKind
  | createUser | saveNewUser | saveUser | getUser | getUserByEmail => .user
  | createSession => .key
  | getSession | listActive => .session
  | deleteUser | deleteSession => .deletion

/-- The text that is sent on a way, whatever the record: any will do to spell it out. -/
def Path.text : Path → String
  | createUser | saveNewUser => (insertUser .new).text
  | saveUser => (upsertUser .new).text
  | getUser => (selectUser 0).text
  | getUserByEmail => (selectUserByEmail "").text
  | deleteUser => (Postgres.deleteUser 0).text
  | createSession => (insertSession (.new 0 "" .sessionCreate)).text
  | getSession => (selectSession 0).text
  | listActive => (selectActiveSessions 0 .epoch).text
  | deleteSession => (Postgres.deleteSession 0).text

/-- **The text of a statement depends on the way alone**; all values travel beside it. -/
theorem command_of_path {ask : Ask} {path : Path} (h : ask.path? = some path) :
    ask.command = .execute path.kind ⟨path.text, ask.values⟩ := by
  cases ask with
  | users call =>
    cases call with
    | save u =>
      rw [path?] at h
      obtain rfl := Option.some.inj h
      by_cases key : u.id = 0
      · rw [command_save key, values, if_pos key, if_pos key]
        rfl
      · rw [command_save_of_ne key, values, if_neg key, if_neg key]
        rfl
    | _ =>
      cases h
      rfl
  | sessions call =>
    cases call <;>
    · cases h
      rfl
  | backend operation => cases h

end Ask

/-! ### Lookups -/

namespace UnitOfWork

variable {σ : Type} {w : UnitOfWork σ} {context : String}

/-- **A user who is found has no plain password**, whatever stands in the row. -/
theorem user_of_query {statement : Statement .user} {u : User}
    (h : (w.query context statement (firstRow? readUser)).1 = .ok (some u)) : u.password = none := by
  obtain ⟨-, rows, -, hread⟩ := query_eq_ok_iff.1 h
  obtain _ | ⟨_, first⟩ := (firstRow?_eq_ok_iff fun _ _ => readUser_eq_ok_iff).1 hread
  exact first.plainless

/-- **A session that is found has no token**, whatever stands in the row. -/
theorem session_of_query {statement : Statement .session} {x : Session}
    (h : (w.query context statement (firstRow? readSession)).1 = .ok (some x)) : x.token = none := by
  obtain ⟨-, rows, -, hread⟩ := query_eq_ok_iff.1 h
  obtain _ | ⟨_, first⟩ := (firstRow?_eq_ok_iff fun _ _ => readSession_eq_ok_iff).1 hread
  exact first.plainless

theorem sessions_of_query {statement : Statement .session} {found : List Session}
    (h : (w.query context statement (·.mapM readSession)).1 = .ok found) :
    ∀ x ∈ found, x.token = none := by
  obtain ⟨-, rows, -, hread⟩ := query_eq_ok_iff.1 h
  have hholds := (mapM_eq_ok_iff fun _ _ => readSession_eq_ok_iff).1 hread
  clear h hread
  induction hholds with
  | nil => exact nofun
  | cons first _ ih => exact List.forall_mem_cons.2 ⟨first.plainless, ih⟩

end UnitOfWork

/-! ### Calls on the store in memory -/

/-- The store in memory behind calls that are answered by it. -/
def memoryBehind (s : Store) : List Ask → Store
  | [] => s
  | .users call :: asks => memoryBehind (s.callUsers call).2 asks
  | .sessions call :: asks => memoryBehind (s.callSessions call).2 asks
  | .backend _ :: asks => memoryBehind s asks

/-- The rows are the same, whatever plain text the calls have brought. -/
theorem memoryBehind_withPlain (s : Store) (asks : List (Ask × Option String)) :
    memoryBehind s (asks.map fun q => q.1.withPlain q.2) = memoryBehind s (asks.map (·.1)) := by
  induction asks generalizing s with
  | nil => rfl
  | cons q asks ih =>
    obtain ⟨ask, plain⟩ := q
    cases ask with
    | users call =>
      show memoryBehind (s.callUsers (call.withPlain plain)).2 _ = memoryBehind (s.callUsers call).2 _
      rw [s.callUsers_withPlain]
      exact ih _
    | sessions call =>
      show memoryBehind (s.callSessions (call.withPlain plain)).2 _ = memoryBehind (s.callSessions call).2 _
      rw [s.callSessions_withPlain]
      exact ih _
    | backend operation => exact ih s

theorem memoryBehind_plainless {s : Store} (plainless : s.Plainless) (asks : List Ask) :
    (memoryBehind s asks).Plainless := by
  induction asks generalizing s with
  | nil => exact plainless
  | cons ask asks ih =>
    cases ask with
    | users call => exact ih (Store.callUsers_plainless plainless call)
    | sessions call => exact ih (Store.callSessions_plainless plainless call)
    | backend operation => exact ih plainless

/-! ### Both kinds of tables -/

/-- **Plain text stays with the caller**, on units of work on a server and in memory. -/
structure PlaintextHidden (σ : Type) : Prop where
  /-- What a call sends, text and values, is the same whatever plain text is on its record. -/
  command : ∀ (ask : Ask) (plain : Option String), (ask.withPlain plain).command = ask.command
  /-- Calls that differ in plain text send the same commands, put the server into the same state, and come
      back with the same; only the callers' records differ, in the plain text that they brought. -/
  run : ∀ (w : UnitOfWork σ) (asks : List (Ask × Option String)),
    w.run (asks.map fun q => q.1.withPlain q.2)
      = (List.zipWith UnitOfWork.Exchange.withPlain (asks.map (·.2)) (w.run (asks.map (·.1))).1,
        (w.run (asks.map (·.1))).2)
  /-- A call sends the text of its way and its values as parameters, or nothing if the unit is closed. -/
  sent : ∀ (w : UnitOfWork σ) (ask : Ask) (path : Ask.Path), ask.path? = some path →
    (w.answer ask).2.2.connection.sent = w.connection.sent ++
      if w.isOpen then [.execute path.kind ⟨path.text, ask.values⟩] else []
  /-- Lookups return no plain text, whatever the server answers. -/
  getUser : ∀ (w : UnitOfWork σ) (id : Id) (u : User),
    (w.users (.getById id)).1 = .ok (some u) → u.password = none
  getUserByEmail : ∀ (w : UnitOfWork σ) (email : String) (u : User),
    (w.users (.getByEmail email)).1 = .ok (some u) → u.password = none
  getSession : ∀ (w : UnitOfWork σ) (id : Id) (x : Session),
    (w.sessions (.getById id)).1 = .ok (some x) → x.token = none
  listActive : ∀ (w : UnitOfWork σ) (userId : Id) (now : Instant) (found : List Session),
    (w.sessions (.listActive userId now)).1 = .ok found → ∀ x ∈ found, x.token = none
  /-- In memory, calls that differ in plain text lead to the same rows and come back with the same. -/
  users : ∀ (s : Store) (call : UserCall) (plain : Option String), s.callUsers (call.withPlain plain)
    = ((s.callUsers call).1.map (call.resultWithPlain plain), (s.callUsers call).2)
  sessions : ∀ (s : Store) (call : SessionCall) (plain : Option String),
    s.callSessions (call.withPlain plain)
      = ((s.callSessions call).1.map (call.resultWithPlain plain), (s.callSessions call).2)
  rows : ∀ (s : Store) (asks : List (Ask × Option String)),
    memoryBehind s (asks.map fun q => q.1.withPlain q.2) = memoryBehind s (asks.map (·.1))
  /-- No plain text is ever in the store, so lookups return none. -/
  memory : ∀ asks : List Ask, (memoryBehind .empty asks).Plainless ∧
    (∀ id u, ((memoryBehind .empty asks).callUsers (.getById id)).1 = .ok (some u) → u.password = none) ∧
    (∀ email u, ((memoryBehind .empty asks).callUsers (.getByEmail email)).1 = .ok (some u) →
      u.password = none) ∧
    (∀ id x, ((memoryBehind .empty asks).callSessions (.getById id)).1 = .ok (some x) → x.token = none) ∧
    ∀ userId now found, ((memoryBehind .empty asks).callSessions (.listActive userId now)).1 = .ok found →
      ∀ x ∈ found, x.token = none

/-- **Plain text never reaches the tables**, nor does it come back from them. -/
theorem plaintext_hidden (σ : Type) : PlaintextHidden σ where
  command ask plain := ask.command_withPlain plain
  run := UnitOfWork.run_withPlain
  sent := by
    intro w ask path hpath
    cases hopen : w.isOpen with
    | false => simp [UnitOfWork.answer_closed hopen]
    | true => simp [UnitOfWork.answer_open hopen, Connection.send, Ask.command_of_path hpath]
  getUser _ _ _ := UnitOfWork.user_of_query
  getUserByEmail _ _ _ := UnitOfWork.user_of_query
  getSession _ _ _ := UnitOfWork.session_of_query
  listActive _ _ _ _ := UnitOfWork.sessions_of_query
  users s call plain := s.callUsers_withPlain plain call
  sessions s call plain := s.callSessions_withPlain plain call
  rows := memoryBehind_withPlain
  memory := by
    intro asks
    have plainless := memoryBehind_plainless Store.empty_plainless asks
    exact ⟨plainless, fun _ _ => plainless.getById, fun _ _ => plainless.getByEmail,
      fun _ _ => plainless.getSession, fun _ _ _ => plainless.listActive⟩

end Turnstile.Postgres
