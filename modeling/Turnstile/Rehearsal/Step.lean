import Turnstile.Rehearsal.World
import Turnstile.Sessions

namespace Turnstile.Rehearsal

/-!
# Steps of a rehearsal

What can be done on the stage, one step after another, and what each step reports.

* `Step` lists the steps, `Action` the operations of the service among them.
* `Report` is what a step gives back.
* `Stage` is the world with the names given to transactions, users, sessions and tokens.
-/

/-! ### Steps -/

/-- Which user a step means. -/
inductive UserRef where
  | absent
  | row (id : Id)
  | unsaved
  | saved (name : String)
  /-- A copy with another mark of verification or another key. -/
  | adjusted (ref : UserRef) (emailVerified : Option Bool) (id : Option Id)

/-- Which session a step means. -/
inductive SessionRef where
  | absent
  | row (id : Id)
  | saved (name : String)

/-- An operation of the service. -/
inductive Action where
  | userCreate (draft : Option UserDraft)
  | userGet (id : Id)
  | userUpdate (user : UserRef) (active : SessionRef) (draft : Option UserDraft)
  | userDelete (user : UserRef)
  | sessionCreate (signIn : Option SignIn)
  | sessionGet (id : Id)
  | sessionDelete (userId : Id) (keep : SessionRef)
  | sessionVerify (authorization : String)

/-- One step. -/
inductive Step where
  | start (tx : String) (timeout : Option Span) (request : Option Request)
  | commit (tx : String)
  | ping (tx : String)
  | rollback (tx : String) (cause : Option SystemFailure)
  | conclude (tx : String) (result : Except ServiceFailure Json)
  | drop (tx : String)
  | healthCheck
  /-- An operation in a transaction, which may be concluded with the result; the result may be saved. -/
  | act (tx : String) (action : Action) (concludes : Bool) (saveAs : Option String)
  | sleep (millis : Nat)
  | join (steps : List Step)
  | inject (target : Target) (fault : Fault)
  | notifier (failing : Option (Nat × String))
  | expireSession (id : Id) (inSeconds : Option Int)
  | hideUser (id : Id)
  | checkPassword (user : UserRef) (password : String)
  | dump

/-- The transaction that a step is about. -/
def Step.tx? : Step → Option String
  | start tx .. | commit tx | ping tx | rollback tx _ | conclude tx _ | drop tx | act tx .. => some tx
  | _ => none

/-! ### Reports -/

/-- What a step gives back. -/
inductive Report where
  | nothing
  | started (timeout : Span) (requestId : String)
  | value (value : Json)
  | user (user : User)
  | session (session : Session)
  | count (count : Nat)
  | verified (session : Session) (user : User)
  | flag (flag : Bool)
  | tables (store : Store)
  | group (reports : List Report)
  | transactionFailed (failure : TransactionFailure)
  | serviceFailed (language : Language) (failure : ServiceFailure)
  /-- The step names a transaction that there is not. -/
  | missing

/-- The report of an operation on a transaction. -/
def Report.ofTransaction : Except TransactionFailure Unit → Report
  | .ok () => nothing
  | .error f => transactionFailed f

/-- The report of an operation of the service. -/
def Report.ofService (l : Language) : Except ServiceFailure Report → Report
  | .ok report => report
  | .error f => serviceFailed l f

/-! ### The stage -/

/-- The world and the names in use. -/
structure Stage where
  world : World
  request : Request
  defaultTimeout : Span
  transactions : List (String × Nat)
  users : List (String × User)
  sessions : List (String × Session)
  tokens : List (Id × String)

namespace Stage

/-- A stage on which nothing has a name. -/
def new (world : World) (request : Request) (defaultTimeout : Span) : Stage :=
  ⟨world, request, defaultTimeout, [], [], [], []⟩

/-- The transaction of a name. -/
def seat? (s : Stage) (tx : String) : Option Nat := s.transactions.lookup tx

/-- The user that is meant. Rows are copied whether deleted or not. -/
def user? (s : Stage) : UserRef → Option User
  | .absent => none
  | .row id => s.world.store.users.find? (·.id == id)
  | .unsaved => some .new
  | .saved name => s.users.lookup name
  | .adjusted ref emailVerified id =>
    (s.user? ref).map fun u =>
      { u with emailVerified := emailVerified.getD u.emailVerified, id := id.getD u.id }

/-- The session that is meant. -/
def session? (s : Stage) : SessionRef → Option Session
  | .absent => none
  | .row id => s.world.store.sessions.find? (·.id == id)
  | .saved name => s.sessions.lookup name

/-- Put issued tokens in place of `{token:N}`, and in capitals in place of `{TOKEN:N}`. -/
def fillTokens (s : Stage) (text : String) : String :=
  s.tokens.foldl
    (fun text (id, token) =>
      (text.replace ("\x7btoken:" ++ toString id ++ "\x7d") token).replace
        ("\x7bTOKEN:" ++ toString id ++ "\x7d") token.toUpper)
    text

/-- Let go of a transaction; one that is still open is warned about. -/
def release (s : Stage) (tx : String) : Stage :=
  let rest := { s with transactions := s.transactions.filter (·.1 != tx) }
  match (s.seat? tx).bind (s.world.seats[·]?) with
  | some seat =>
    if seat.state.isOpen then
      { rest with world := s.world.log (Transaction.droppedEntry seat.request seat.timeout) }
    else rest
  | none => rest

/-- Name a transaction; the one that had the name is let go. -/
def nameTransaction (s : Stage) (tx : String) (seat : Nat) : Stage :=
  let s := s.release tx
  { s with transactions := (tx, seat) :: s.transactions }

/-- Remember a token that was issued. -/
def keepToken (s : Stage) (x : Session) : Stage :=
  match x.token with
  | some token => { s with tokens := (x.id, token) :: s.tokens }
  | none => s

/-- Save a user or session under a name. -/
def save (s : Stage) (name : String) : Report → Stage
  | .user u => { s with users := (name, u) :: s.users }
  | .session x => { s with sessions := (name, x) :: s.sessions }
  | _ => s

/-! ### Operations as programs -/

/-- The program of an operation. -/
def program (s : Stage) (r : Request) : Action → Service Report
  | .userCreate draft => return .user (← Accounts.create s.world.hasher r draft)
  | .userGet id => return .user (← Accounts.get id)
  | .userUpdate user active draft =>
    return .user (← Accounts.update s.world.hasher r (s.user? user) (s.session? active) draft)
  | .userDelete user => return .user (← Accounts.delete r (s.user? user))
  | .sessionCreate signIn => return .session (← Sessions.create s.world.hasher r signIn)
  | .sessionGet id => return .session (← Sessions.get id)
  | .sessionDelete userId keep => return .count (← Sessions.delete r userId (s.session? keep))
  | .sessionVerify authorization => do
    let (session, user) ← Sessions.verify s.world.hasher r (s.fillTokens authorization)
    return .verified session user

end Stage

end Turnstile.Rehearsal
