import Turnstile.Postgres.Row

namespace Turnstile.Postgres

/-!
# Units of work

All calls of one unit of work share one transaction of the server. Whoever commits or rolls back takes the
transaction, whatever the server answers; calls that come later send nothing and are told that it is closed.
Calls that write are lent their caller's record and change it in place.

* `Server` answers commands, and `Connection` keeps what has been sent.
* `UnitOfWork.begin` opens a transaction; `UnitOfWork.answer` answers one call in it.
* `UnitOfWork.run` answers calls in the order in which they get hold of the transaction.
-/

/-! ### The server -/

/-- What is sent to the server. -/
inductive Command where
  | begin
  | commit
  | rollback
  /-- A script of several statements without parameters. -/
  | script (text : String)
  | execute (kind : RowKind) (statement : Statement kind)
  deriving DecidableEq

/-- What the server answers if it accepts a command. -/
@[reducible] def Command.Answer : Command → Type
  | execute kind _ => List kind.Row
  | _ => Unit

/-- A server, by what it answers in each of its states. -/
structure Server (σ : Type) where
  answer : (command : Command) → σ → Except DriverFault command.Answer × σ

/-- A server that refuses every command for the same reason. -/
def Server.failing (fault : DriverFault) : Server Unit := ⟨fun _ _ => (.error fault, ())⟩

/-- A connection to a server: the state that the server is in, and what has been sent so far. -/
structure Connection (σ : Type) where
  server : Server σ
  state : σ
  sent : List Command

namespace Connection

/-- A connection on which nothing has been sent. -/
def new (server : Server σ) (state : σ) : Connection σ := ⟨server, state, []⟩

/-- Send a command. -/
def send (k : Connection σ) (command : Command) : Except DriverFault command.Answer × Connection σ :=
  let (answer, state) := k.server.answer command k.state
  (answer, { k with state := state, sent := k.sent ++ [command] })

end Connection

/-! ### Calls -/

/-- What can be asked of a unit of work. -/
inductive Ask where
  | users (call : UserCall)
  | sessions (call : SessionCall)
  | backend (operation : Operation)

/-- What a call returns. -/
@[reducible] def Ask.Result : Ask → Type
  | users (.getById _) | users (.getByEmail _) => Option User
  | sessions (.getById _) => Option Session
  | sessions (.listActive ..) => List Session
  | users _ | sessions _ | backend _ => Unit

/-- What a call is lent to be changed. -/
@[reducible] def Ask.Record : Ask → Type
  | users (.create _) | users (.save _) | users (.delete _) => User
  | sessions (.create _) | sessions (.delete _) => Session
  | users _ | sessions _ | backend _ => Unit

/-- The record as the caller lends it. -/
def Ask.record : (ask : Ask) → ask.Record
  | users (.create u) | users (.save u) | users (.delete u) => u
  | sessions (.create s) | sessions (.delete s) => s
  | users (.getById _) | users (.getByEmail _) | sessions (.getById _) | sessions (.listActive ..)
  | backend _ => ()

/-- The name of what is asked in the failures it meets. -/
def Ask.context : Ask → String
  | users call => call.context
  | sessions call => call.context
  | backend operation => operation.context

/-- A connection with the transaction on it, as long as nobody has taken it. -/
structure UnitOfWork (σ : Type) where
  connection : Connection σ
  isOpen : Bool

/-- A driver's report as the failure of an operation. -/
def classify (context : String) (result : Except DriverFault α) : Except RepositoryFailure α :=
  result.mapError (.ofDriver context)

namespace UnitOfWork

/-- Open a transaction. -/
def begin (k : Connection σ) : Except RepositoryFailure (UnitOfWork σ) × Connection σ :=
  let (answer, k) := k.send .begin
  (classify beginContext (answer.map fun _ => ⟨k, true⟩), k)

/-- Execute a statement if the transaction is open. -/
def execute (w : UnitOfWork σ) (context : String) {kind : RowKind} (statement : Statement kind) :
    Except RepositoryFailure (List kind.Row) × UnitOfWork σ :=
  if w.isOpen then
    let (answer, k) := w.connection.send (.execute kind statement)
    (classify context answer, { w with connection := k })
  else (.error (.closed context), w)

/-- Execute a statement and read its answer. -/
def query (w : UnitOfWork σ) (context : String) {kind : RowKind} (statement : Statement kind)
    (read : List kind.Row → Except DriverFault α) : Except RepositoryFailure α × UnitOfWork σ :=
  let (rows, w) := w.execute context statement
  (rows.bind fun rows => classify context (read rows), w)

/-- Take the transaction and end it. -/
def finish (w : UnitOfWork σ) (context : String) (command : Command) :
    Except RepositoryFailure Unit × UnitOfWork σ :=
  if w.isOpen then
    let (answer, k) := w.connection.send command
    (classify context (answer.map fun _ => ()), ⟨k, false⟩)
  else (.error (.closed context), w)

/-- Take an answer over into the caller's record. A failure leaves the record as it was. -/
def into (record : ρ) (answer : Except RepositoryFailure α × UnitOfWork σ) (change : α → ρ) :
    Except RepositoryFailure Unit × ρ × UnitOfWork σ :=
  match answer with
  | (.ok a, w) => (.ok (), change a, w)
  | (.error f, w) => (.error f, record, w)

/-- The answer to a call that is lent no record. -/
def returned (answer : Except RepositoryFailure α × UnitOfWork σ) :
    Except RepositoryFailure α × Unit × UnitOfWork σ := (answer.1, (), answer.2)

/-! ### Users -/

/-- Insert a user; the server chooses the key and the time. -/
def createUser (w : UnitOfWork σ) (context : String) (u : User) :
    Except RepositoryFailure Unit × User × UnitOfWork σ :=
  into u (w.query context (insertUser u) (theRow readUser)) fun row =>
    { u with id := row.id, createdAt := row.createdAt }.refreshPasswordSet

/-- Replace the live row of a user; a row that is marked as deleted is left alone and not found. -/
def saveUser (w : UnitOfWork σ) (context : String) (u : User) :
    Except RepositoryFailure Unit × User × UnitOfWork σ :=
  let (row?, w) := w.query context (upsertUser u) (firstRow? readUser)
  into u (row?.bind (·.elim (.error (.notFound context)) .ok), w) fun row =>
    { u with createdAt := row.createdAt }.refreshPasswordSet

/-- Answer a call on the table of users. -/
def users (w : UnitOfWork σ) : (call : UserCall) →
    Except RepositoryFailure (Ask.users call).Result × (Ask.users call).Record × UnitOfWork σ
  | .create u => w.createUser (UserCall.create u).context u
  | .save u =>
    if u.id = 0 then w.createUser (UserCall.save u).context u
    else w.saveUser (UserCall.save u).context u
  | .getById id => returned (w.query (UserCall.getById id).context (selectUser id) (firstRow? readUser))
  | .getByEmail email =>
    returned (w.query (UserCall.getByEmail email).context (selectUserByEmail email) (firstRow? readUser))
  | .delete u =>
    into u (w.query (UserCall.delete u).context (deleteUser u.id) (firstRow? readDeletion)) fun at? =>
      { u with deletedAt := at? <|> u.deletedAt }

/-! ### Sessions -/

/-- Answer a call on the table of sessions. -/
def sessions (w : UnitOfWork σ) : (call : SessionCall) →
    Except RepositoryFailure (Ask.sessions call).Result × (Ask.sessions call).Record × UnitOfWork σ
  | .create s =>
    into s (w.query (SessionCall.create s).context (insertSession s) (theRow readKey)) fun key =>
      { s with id := key.1, createdAt := key.2 }
  | .getById id =>
    returned (w.query (SessionCall.getById id).context (selectSession id) (firstRow? readSession))
  | .listActive userId now =>
    returned (w.query (SessionCall.listActive userId now).context (selectActiveSessions userId now)
      (·.mapM readSession))
  | .delete s =>
    into s (w.query (SessionCall.delete s).context (deleteSession s.id) (firstRow? readDeletion)) fun at? =>
      { s with deletedAt := at? <|> s.deletedAt }

/-! ### The transaction itself -/

/-- Commit, roll back or probe. -/
def backend (w : UnitOfWork σ) : Operation → Except RepositoryFailure Unit × UnitOfWork σ
  | .commit => w.finish Operation.commit.context .commit
  | .rollback => w.finish Operation.rollback.context .rollback
  | .ping => w.query Operation.ping.context probe fun _ => .ok ()

/-! ### All calls -/

/-- Answer one call: what it returns, and what has become of the record that it was lent. -/
def answer (w : UnitOfWork σ) :
    (ask : Ask) → Except RepositoryFailure ask.Result × ask.Record × UnitOfWork σ
  | .users call => w.users call
  | .sessions call => w.sessions call
  | .backend operation => returned (w.backend operation)

/-- A call with its answer. -/
structure Exchange where
  ask : Ask
  result : Except RepositoryFailure ask.Result
  record : ask.Record

/-- Answer calls one after the other, in the order in which they get hold of the transaction. -/
def run (w : UnitOfWork σ) : List Ask → List Exchange × UnitOfWork σ
  | [] => ([], w)
  | ask :: asks =>
    let (result, record, w) := w.answer ask
    let (exchanges, w) := run w asks
    (⟨ask, result, record⟩ :: exchanges, w)

end UnitOfWork

end Turnstile.Postgres
