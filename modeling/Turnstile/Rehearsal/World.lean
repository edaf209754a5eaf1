import Turnstile.Rehearsal.Entropy
import Turnstile.Rehearsal.Fault
import Turnstile.Store
import Turnstile.Transaction

namespace Turnstile.Rehearsal

open Credential (Hasher)

/-!
# The world of a rehearsal

The surroundings that answer the programs of the service: a store in memory, a clock that stands still
between waits, queued faults, and a record of what operators are told.

* `World.answer` answers one question of a program that runs in a transaction, with the time that the
  answer takes.
* `World.advance` runs a program up to its next wait.
-/

/-! ### State -/

/-- A transaction with the calls that have reached its database transaction. -/
structure Seat where
  request : Request
  timeout : Span
  state : TransactionState
  commits : Nat
  rollbacks : Nat
  pings : Nat
  isClosed : Bool

/-- Work that waits in the background: a watchdog before its deadline, which ends with the transaction it
    is `armed` for, or one whose call is being answered. -/
structure Pending where
  armed : Option Nat
  seat : Option Nat
  wake : Nat
  rest : Program Unit

/-- What operators have been told. -/
structure Told where
  alerts : List (Request × String)
  notices : List Webhook.Notice
  entries : List LogEntry

/-- Nothing told. -/
def Told.nothing : Told := ⟨[], [], []⟩

/-- The surroundings of the service. Times are in milliseconds from the start; the wall clock is read
    apart from them and moves a little with every reading. -/
structure World where
  hasher : Hasher
  now : Nat
  readings : Nat
  entropy : Entropy
  store : Store
  seats : List Seat
  faults : List (Target × Fault)
  failing : Option (Nat × String)
  pending : List Pending
  told : Told

namespace World

/-- A world in which nothing has happened yet. -/
def new (hasher : Hasher) (entropy : Entropy) (store : Store) : World where
  hasher := hasher
  now := 0
  readings := 0
  entropy := entropy
  store := store
  seats := []
  faults := []
  failing := none
  pending := []
  told := .nothing

/-! ### Clocks and chance -/

/-- The wall clock at the start of a rehearsal, 2026-01-01T00:00:00Z. -/
def wallStart : Int := 1767225600

/-- The wall clock after so many readings, a microsecond apart. -/
def wallAt (readings : Nat) : Instant :=
  ⟨wallStart + (readings / 1000000 : Nat), readings % 1000000 * 1000⟩

/-- The wall clock. -/
def wall (w : World) : Instant := wallAt w.readings

/-- The world after a reading of the wall clock. -/
def tick (w : World) : World := { w with readings := w.readings + 1 }

/-- The world after so many random values. -/
def spend (w : World) (n : Nat) : World := { w with entropy := w.entropy.skip n }

/-! ### Telling operators -/

/-- Write a log entry. -/
def log (w : World) (e : LogEntry) : World :=
  { w with told := { w.told with entries := w.told.entries ++ [e] } }

/-- Raise an alarm. -/
def alert (w : World) (r : Request) (message : String) : World :=
  { w with told := { w.told with alerts := w.told.alerts ++ [(r, message)] } }

/-- Record a notice; it is recorded even if its delivery fails. -/
def notify (w : World) (n : Webhook.Notice) : Except Webhook.DeliveryFault Unit × World :=
  let w := { w with told := { w.told with notices := w.told.notices ++ [n] } }
  match w.failing with
  | none => (.ok (), w)
  | some (status, body) => (.error (.refused status body), w)

/-! ### Transactions -/

/-- The transaction that a program runs in. -/
def seat? (w : World) (seat : Option Nat) : Option Seat := seat.bind (w.seats[·]?)

/-- Change a transaction. -/
def changeSeat (w : World) (seat : Option Nat) (f : Seat → Seat) : World :=
  match seat with
  | none => w
  | some i => { w with seats := w.seats.modify i f }

/-- Whether calls in the transaction are refused because it is closed. -/
def isClosed (w : World) (seat : Option Nat) : Bool := (w.seat? seat).all (·.isClosed)

/-- Take the fault that strikes a call. -/
def strike (w : World) (target : Target) : Fault × World :=
  let (fault, faults) := takeFault target w.faults
  (fault, { w with faults := faults })

/-! ### Answers -/

/-- An answer, the time it takes, the transaction that the program runs in from now on, and the world. -/
structure Reply (α : Type) where
  answer : α
  delay : Nat
  seat : Option Nat
  world : World

/-- Answer a call on the table of users. -/
def users (w : World) (seat : Option Nat) (call : UserCall) :
    Reply (Except RepositoryFailure call.Result) :=
  if w.isClosed seat then ⟨.error (.closed call.context), 0, seat, w⟩
  else
    let (fault, w) := w.strike (.ofUserCall call)
    match fault.mischief with
    | .fail f => ⟨.error f, fault.delay, seat, w⟩
    | .idle => ⟨idleUsers call, fault.delay, seat, w⟩
    | .none =>
      let (answer, store) := w.store.callUsers call
      ⟨answer, fault.delay, seat, { w with store := store }⟩

/-- Answer a call on the table of sessions. -/
def sessions (w : World) (seat : Option Nat) (call : SessionCall) :
    Reply (Except RepositoryFailure call.Result) :=
  if w.isClosed seat then ⟨.error (.closed call.context), 0, seat, w⟩
  else
    let (fault, w) := w.strike (.ofSessionCall call)
    match fault.mischief with
    | .fail f => ⟨.error f, fault.delay, seat, w⟩
    | .idle => ⟨idleSessions call, fault.delay, seat, w⟩
    | .none =>
      let (answer, store) := w.store.callSessions call
      ⟨answer, fault.delay, seat, { w with store := store }⟩

/-- Count a call that reaches the database transaction; commit and rollback close it. -/
def Seat.reach (s : Seat) : Operation → Seat
  | .commit => { s with commits := s.commits + 1, isClosed := true }
  | .rollback => { s with rollbacks := s.rollbacks + 1, isClosed := true }
  | .ping => { s with pings := s.pings + 1 }

/-- Answer a commit or a rollback: it counts and closes the transaction whatever comes of it. -/
def terminal (w : World) (seat : Option Nat) (operation : Operation) :
    Reply (Except RepositoryFailure Unit) :=
  let wasClosed := w.isClosed seat
  let w := w.changeSeat seat (Seat.reach · operation)
  if wasClosed then ⟨.error (.closed operation.context), 0, seat, w⟩
  else
    let (fault, w) := w.strike (.backend operation)
    match fault.mischief with
    | .fail f => ⟨.error f, fault.delay, seat, w⟩
    | _ => ⟨.ok (), fault.delay, seat, w⟩

/-- Answer a probe: it counts only if it succeeds. -/
def probe (w : World) (seat : Option Nat) : Reply (Except RepositoryFailure Unit) :=
  if w.isClosed seat then ⟨.error (.closed Operation.ping.context), 0, seat, w⟩
  else
    let (fault, w) := w.strike (.backend .ping)
    match fault.mischief with
    | .fail f => ⟨.error f, fault.delay, seat, w⟩
    | .idle => ⟨.ok (), fault.delay, seat, w⟩
    | .none => ⟨.ok (), fault.delay, seat, w.changeSeat seat (Seat.reach · .ping)⟩

/-- Open a database transaction. -/
def openTransaction (w : World) (seat : Option Nat) : Reply (Except RepositoryFailure Unit) :=
  let (fault, w) := w.strike .begin
  match fault.mischief with
  | .fail f => ⟨.error f, fault.delay, seat, w⟩
  | _ =>
    let opened : Seat := ⟨.new "" .epoch, .ofSeconds 0, .new, 0, 0, 0, false⟩
    ⟨.ok (), fault.delay, some w.seats.length, { w with seats := w.seats ++ [opened] }⟩

/-- Start a watchdog. -/
def arm (w : World) (seat : Option Nat) (r : Request) (timeout : Span) : World :=
  match seat with
  | none => w
  | some _ =>
    let w := w.changeSeat seat fun s => { s with request := r, timeout := timeout }
    let watchdog : Pending := ⟨seat, seat, w.now + timeout.ticks, Transaction.expire r timeout⟩
    { w with pending := w.pending ++ [watchdog] }

/-- Stop the watchdog of a transaction. -/
def disarm (w : World) (seat : Option Nat) : World :=
  { w with pending := w.pending.filter fun p => p.armed.isNone || p.armed != seat }

/-- Claim the end of a transaction. -/
def claim (w : World) (seat : Option Nat) (ending : Ending) (operation : Operation) :
    Except TransactionFailure Unit × World :=
  match w.seat? seat with
  | none => (.error (.alreadyEnded operation none), w)
  | some s =>
    let (result, state) := s.state.claim ending operation w.wall
    (result, w.tick.changeSeat seat fun s => { s with state := state })

/-- Answer a question of a program that runs in a transaction. -/
def answer (w : World) (seat : Option Nat) : (e : Effect) → Reply e.Answer
  | .begin => w.openTransaction seat
  | .arm r timeout => ⟨(), 0, seat, w.arm seat r timeout⟩
  | .claim ending operation =>
    let (result, w) := w.claim seat ending operation
    ⟨result, 0, seat, w⟩
  | .disarm => ⟨(), 0, seat, w.disarm seat⟩
  | .backend .ping => w.probe seat
  | .backend .commit => w.terminal seat .commit
  | .backend .rollback => w.terminal seat .rollback
  | .users call => w.users seat call
  | .sessions call => w.sessions seat call
  | .clock => ⟨w.wall, 0, seat, w.tick⟩
  | .salt => ⟨w.entropy.salt, 0, seat, w.spend 16⟩
  | .draw => ⟨w.entropy.draw, 0, seat, w.spend 57⟩
  | .notify notice =>
    let (result, w) := w.notify notice
    ⟨result, 0, seat, w⟩
  | .alert r message => ⟨(), 0, seat, w.alert r message⟩
  | .log entry => ⟨(), 0, seat, w.log entry⟩

/-! ### Running programs -/

/-- How far a program has come. -/
inductive Progress (α : Type) where
  | finished (seat : Option Nat) (value : α)
  | waiting (wake : Nat) (seat : Option Nat) (rest : Program α)

/-- Run a program until it is done or an answer takes time. -/
def advance (w : World) (seat : Option Nat) : Program α → Progress α × World
  | .done value => (.finished seat value, w)
  | .ask e next =>
    let reply := w.answer seat e
    if reply.delay = 0 then reply.world.advance reply.seat (next reply.answer)
    else (.waiting (reply.world.now + reply.delay) reply.seat (next reply.answer), reply.world)

/-! ### Work in the background -/

/-- Take the work that wakes first, if it wakes before a bound. -/
def takeFirst (bound : Nat) : List Pending → Option (Pending × List Pending)
  | [] => none
  | p :: ps =>
    match takeFirst (min bound p.wake) ps with
    | some (q, rest) => some (q, p :: rest)
    | none => if p.wake < bound then some (p, ps) else none

/-- Do at most `fuel` pieces of work that wake before a bound, letting the time pass. -/
def doWork (bound : Nat) : Nat → World → World
  | 0, w => w
  | fuel + 1, w =>
    match takeFirst bound w.pending with
    | none => w
    | some (p, rest) =>
      let w := { w with now := max w.now p.wake, pending := rest }
      match w.advance p.seat p.rest with
      | (.finished .., w) => doWork bound fuel w
      | (.waiting wake seat rest, w) =>
        doWork bound fuel { w with pending := w.pending ++ [⟨none, seat, wake, rest⟩] }

/-- Do all work that wakes before a bound. Each wait within it uses up a fault, so there is no more of it
    than there is work and faults. -/
def workBefore (bound : Nat) (w : World) : World :=
  doWork bound (w.pending.length + w.faults.length) w

/-- Let the time pass up to an instant, with the work that wakes before it. -/
def passTo (time : Nat) (w : World) : World :=
  let w := w.workBefore time
  { w with now := max w.now time }

/-- Do all work that is due. -/
def settle (w : World) : World := w.workBefore (w.now + 1)

end World

end Turnstile.Rehearsal
