import Turnstile.Rehearsal.Step

namespace Turnstile.Rehearsal

/-!
# Running a rehearsal

Steps are done in order. A step that has to wait lets the time pass, and with it the work that wakes in
the meantime; of a step and a watchdog that wake at the same instant the step goes on first. Joined steps
are taken up in order whenever one of them wakes. When a step is over, the watchdogs that are due have
their turn.

* `Stage.run` does one step and gives its `Outcome`.
-/

/-! ### Steps in progress -/

/-- What is to be done when a program is over. -/
inductive After where
  | nothing
  | name (tx : String)
  | save (name : Option String)

/-- A step in progress. -/
inductive Activity where
  | finished (report : Report)
  | waiting (wake : Nat) (seat : Option Nat) (rest : Program Report) (after : After)
  | group (members : List Activity)

namespace Stage

/-- Take note of what a program has reported. -/
def conclude (s : Stage) (seat : Option Nat) (report : Report) : After → Stage
  | .nothing => s
  | .name tx =>
    match report, seat with
    | .started .., some i => s.nameTransaction tx i
    | _, _ => s
  | .save name =>
    let s := match report with
      | .session x => s.keepToken x
      | _ => s
    match name with
    | some name => s.save name report
    | none => s

/-- Run a program up to its next wait. -/
def proceed (s : Stage) (seat : Option Nat) (p : Program Report) (after : After) :
    Activity × Stage :=
  match s.world.advance seat p with
  | (.finished seat report, world) =>
    (.finished report, { s with world := world }.conclude seat report after)
  | (.waiting wake seat rest, world) =>
    (.waiting wake seat rest after, { s with world := world })

/-- Run a program in a transaction, if there is one of that name. -/
def inTransaction (s : Stage) (tx : String) (after : After)
    (p : Request → Program Report) : Activity × Stage :=
  match s.seat? tx with
  | none => (.finished .missing, s)
  | some i =>
    match s.world.seats[i]? with
    | none => (.finished .missing, s)
    | some seat => s.proceed (some i) (p seat.request) after

/-- Open a transaction. -/
def startProgram (r : Request) (timeout : Span) : Program Report := do
  match ← Transaction.start r timeout with
  | .ok () => return .started timeout r.id
  | .error f => return .transactionFailed f

/-- An operation in a transaction, concluded with its result if that is asked for. -/
def actProgram (s : Stage) (action : Action) (concludes : Bool) (r : Request) :
    Program Report := do
  let result ← (s.program r action).run
  if concludes then return .ofService r.language (← Transaction.conclude r result)
  else return .ofService r.language result

/-- Let a session expire so many seconds from now. -/
def expireSession (s : Stage) (id : Id) (inSeconds : Option Int) : Stage :=
  let now := s.world.wall
  let expireAt := inSeconds.map fun n => { now with seconds := now.seconds + n }
  let store := s.world.store
  let sessions := Store.changeFirst (·.id == id) (fun x => { x with expireAt := expireAt })
    store.sessions
  { s with world := { s.world.tick with store := { store with sessions := sessions } } }

/-- Mark a user as deleted, behind the back of the service. -/
def hideUser (s : Stage) (id : Id) : Stage :=
  let store := s.world.store
  if store.users.any (·.id == id) then
    let users := Store.changeFirst (·.id == id) (fun u => { u with deletedAt := some store.stamp })
      store.users
    { s with world := { s.world with store := { store.tick with users := users } } }
  else s

mutual

/-- Begin a step. -/
def begin (s : Stage) : Step → Activity × Stage
  | .start tx timeout request =>
    s.proceed none (startProgram (request.getD s.request) (timeout.getD s.defaultTimeout)) (.name tx)
  | .commit tx => s.inTransaction tx .nothing fun _ => Transaction.commit.map .ofTransaction
  | .ping tx => s.inTransaction tx .nothing fun _ => Transaction.ping.map .ofTransaction
  | .rollback tx cause =>
    s.inTransaction tx .nothing fun _ => (Transaction.rollback cause).map .ofTransaction
  | .conclude tx result =>
    s.inTransaction tx .nothing fun r =>
      (Transaction.conclude r (result.map Report.value)).map (.ofService r.language)
  | .drop tx => (.finished .nothing, s.release tx)
  | .healthCheck =>
    s.proceed none
      ((Transaction.healthCheck s.request s.defaultTimeout).map fun result =>
        .ofService s.request.language (result.map fun _ => .nothing))
      .nothing
  | .act tx action concludes saveAs =>
    s.inTransaction tx (.save saveAs) (s.actProgram action concludes)
  | .sleep millis => (.waiting (s.world.now + millis) none (.done .nothing) .nothing, s)
  | .join steps =>
    let (members, s) := s.beginAll steps
    (.group members, s)
  | .inject target fault =>
    (.finished .nothing,
      { s with world := { s.world with faults := s.world.faults ++ [(target, fault)] } })
  | .notifier failing => (.finished .nothing, { s with world := { s.world with failing := failing } })
  | .expireSession id inSeconds => (.finished .nothing, s.expireSession id inSeconds)
  | .hideUser id => (.finished .nothing, s.hideUser id)
  | .checkPassword user password =>
    (.finished (.flag ((s.user? user).any (·.hasPassword s.world.hasher password))), s)
  | .dump => (.finished (.tables s.world.store), s)

/-- Begin steps in order. -/
def beginAll (s : Stage) : List Step → List Activity × Stage
  | [] => ([], s)
  | step :: steps =>
    let (member, s) := s.begin step
    let (members, s) := s.beginAll steps
    (member :: members, s)

end

mutual

/-- Take a step up again if it has woken. -/
def resume (s : Stage) : Activity → Activity × Stage
  | .finished report => (.finished report, s)
  | .waiting wake seat rest after =>
    if wake ≤ s.world.now then s.proceed seat rest after else (.waiting wake seat rest after, s)
  | .group members =>
    let (members, s) := s.resumeAll members
    (.group members, s)

/-- Take steps up again in order. -/
def resumeAll (s : Stage) : List Activity → List Activity × Stage
  | [] => ([], s)
  | a :: as =>
    let (a, s) := s.resume a
    let (as, s) := s.resumeAll as
    (a :: as, s)

end

end Stage

/-! ### Up to the end of a step -/

/-- The earlier of two instants, if there is one. -/
def earlier : Option Nat → Option Nat → Option Nat
  | none, b => b
  | a, none => a
  | some a, some b => some (min a b)

mutual

/-- When a step wakes; `none` if it is over. -/
def Activity.wake? : Activity → Option Nat
  | .finished _ => none
  | .waiting wake .. => some wake
  | .group members => firstWake? members

/-- When the first of several steps wakes. -/
def firstWake? : List Activity → Option Nat
  | [] => none
  | a :: as => earlier a.wake? (firstWake? as)

end

mutual

/-- The report of a step; one that is not over reports nothing. -/
def Activity.report : Activity → Report
  | .finished report => report
  | .waiting .. => .nothing
  | .group members => .group (reports members)

/-- The reports of several steps. -/
def reports : List Activity → List Report
  | [] => []
  | a :: as => a.report :: reports as

end

mutual

/-- How many steps are joined. -/
def Activity.size : Activity → Nat
  | .group members => sizes members
  | _ => 1

/-- How many steps are joined in several. -/
def sizes : List Activity → Nat
  | [] => 0
  | a :: as => a.size + sizes as

end

namespace Stage

/-- Go on with a step until it is over, through at most `fuel` waits. -/
def goOn : Nat → Stage → Activity → Report × Stage
  | 0, s, a => (a.report, s)
  | fuel + 1, s, a =>
    match a.wake? with
    | none => (a.report, s)
    | some wake =>
      let s := { s with world := s.world.passTo wake }
      let (a, s) := s.resume a
      goOn fuel s a

/-- What a step has done: its report, the transaction that it is about, what operators were told, and the
    wall clock at its end. -/
structure Outcome where
  report : Report
  seat : Option (Option Seat)
  told : Told
  wall : Instant

/-- Do one step. Each wait is a sleep or uses up a fault, so there are no more of them than steps and
    faults. -/
def run (s : Stage) (step : Step) : Outcome × Stage :=
  let s := { s with world := { s.world with told := .nothing } }
  let (a, s) := s.begin step
  let (report, s) := s.goOn (a.size + s.world.faults.length + 1) a
  let s := { s with world := s.world.settle }
  let seat := step.tx?.map fun tx => (s.seat? tx).bind (s.world.seats[·]?)
  (⟨report, seat, s.world.told, s.world.tick.wall⟩, { s with world := s.world.tick })

end Stage

/-! ### Times as they are reported -/

/-- Whole minutes from one instant to another, to the nearest. -/
def minutesUntil (now t : Instant) : Int :=
  let nanos := (t.seconds - now.seconds) * 1000000000 + (t.nanos - now.nanos : Int)
  (nanos.tdiv 1000000000 + 30) / 60

/-! ### Seeds -/

/-- A user that is in the store from the start. -/
structure SeedUser where
  user : User
  isDeleted : Bool

/-- A session that is in the store from the start, and when it expires. -/
structure SeedSession where
  session : Session
  expiresIn : Option Int
  isDeleted : Bool

/-- Put a user into a store. -/
def plantUser (s : Store) (seed : SeedUser) : Store :=
  let u := { seed.user with
    id := s.lastUser + 1
    createdAt := s.stamp
    deletedAt := if seed.isDeleted then some s.stamp else none }
  { s.tick with users := s.users ++ [u], lastUser := s.lastUser + 1 }

/-- Put a session into a store at an instant. -/
def plantSession (now : Instant) (s : Store) (seed : SeedSession) : Store :=
  let x := { seed.session with
    id := s.lastSession + 1
    createdAt := s.stamp
    expireAt := seed.expiresIn.map fun n => { now with seconds := now.seconds + n }
    deletedAt := if seed.isDeleted then some s.stamp else none }
  { s.tick with sessions := s.sessions ++ [x], lastSession := s.lastSession + 1 }

/-- The store with the given rows. -/
def plant (now : Instant) (users : List SeedUser) (sessions : List SeedSession) : Store :=
  sessions.foldl (plantSession now) (users.foldl plantUser .empty)

end Turnstile.Rehearsal
