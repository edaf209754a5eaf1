import Turnstile.Proofs.Leads
import Turnstile.Proofs.Service.Undisturbed
import Turnstile.Transaction

namespace Turnstile

open Credential (Hasher)

/-!
# Requests one after the other

The service as it is seen from its books: the rows, the transactions, what was asked of the outside so far,
and what operators were told.

* `Notifier` decides how deliveries come out, and `Outside` answers what the books do not.
* `Program.play` plays a program to its end, and `play_bind` says that two programs in a row are played in a
  row.
* `Errand` lists what callers come for: to begin a transaction, to have an operation done, to conclude a
  result, or all of this in one request. `visits` plays a sequence of errands. No deadline passes in between.
-/

/-! ### The books -/

/-- How deliveries come out. The last of the notices so far is the one that is to be delivered. -/
abbrev Notifier := List Webhook.Notice → Except Webhook.DeliveryFault Unit

/-- What is outside. Its answers may depend on all that was asked of it and of the tables so far, but not
    on what operators were told. A call on the tables may be refused; only then is the answer to it from
    here. -/
abbrev Outside := List Effect → Surroundings

/-- The rows, the transactions that have been begun and the place of the one at hand, what was asked so far
    apart from notices and entries in the log, and the notices so far. -/
structure Books where
  store : Store
  transactions : List TransactionState
  current : Nat
  asked : List Effect
  told : List Webhook.Notice

namespace Books

/-- The books before anything has happened. -/
def new : Books := ⟨.empty, [], 0, [], []⟩

/-- Something more was asked. -/
def ask (b : Books) (e : Effect) : Books := { b with asked := b.asked ++ [e] }

/-- A call on the tables is answered by the store unless it is refused. -/
def call (b : Books) {α : Type} (refusal : Except RepositoryFailure α)
    (answer : Except RepositoryFailure α × Store) : Except RepositoryFailure α × Books :=
  match refusal with
  | .error f => (.error f, b)
  | .ok _ => (answer.1, { b with store := answer.2 })

/-- A transaction is begun, and is the one at hand. -/
def begun (b : Books) : Except RepositoryFailure Unit → Except RepositoryFailure Unit × Books
  | .error f => (.error f, b)
  | .ok () => (.ok (), { b with
      transactions := b.transactions ++ [.new], current := b.transactions.length })

/-- The end of the transaction at hand is claimed at an instant. -/
def claim (b : Books) (ending : Ending) (operation : Operation) (now : Instant) :
    Except TransactionFailure Unit × Books :=
  let (answer, t) := (b.transactions.getD b.current .new).claim ending operation now
  (answer, { b with transactions := b.transactions.set b.current t })

/-- How a question is answered. -/
def reply (o : Outside) (n : Notifier) (b : Books) : (e : Effect) → e.Answer × Books
  | .notify notice => (n (b.told ++ [notice]), { b with told := b.told ++ [notice] })
  | .log _ => ((), b)
  | .begin => (b.ask .begin).begun (o b.asked .begin)
  | .claim ending operation => (b.ask (.claim ending operation)).claim ending operation (o b.asked .clock)
  | .users call => (b.ask (.users call)).call (o b.asked (.users call)) (b.store.callUsers call)
  | .sessions call => (b.ask (.sessions call)).call (o b.asked (.sessions call)) (b.store.callSessions call)
  | e => (o b.asked e, b.ask e)

end Books

/-! ### Playing programs -/

/-- What a program comes back with, and the books behind it. -/
def Program.play (o : Outside) (n : Notifier) : Program α → Books → α × Books
  | done value, b => (value, b)
  | ask e next, b => (next (b.reply o n e).1).play o n (b.reply o n e).2

theorem Program.play_bind (o : Outside) (n : Notifier) (p : Program α) (f : α → Program β) (b : Books) :
    (p.bind f).play o n b = (f (p.play o n b).1).play o n (p.play o n b).2 := by
  induction p generalizing b with
  | done value => rfl
  | ask e next ih => exact ih _ _

/-- What no question of a program changes, the program does not change. -/
theorem Program.play_keeps {γ : Type} {o : Outside} {n : Notifier} {f : Books → γ} {P : Effect → Prop}
    (keeps : ∀ e b, P e → f (b.reply o n e).2 = f b) {p : Program α} (asks : p.Asks P) (b : Books) :
    f (p.play o n b).2 = f b := by
  induction p generalizing b with
  | done value => rfl
  | ask e next ih => exact (ih _ (asks.2 _) _).trans (keeps e b asks.1)

/-! ### Errands -/

/-- What a caller comes for. A conclusion is for the transaction at a place; the others need none, or begin
    one. -/
inductive Errand where
  | begin (r : Request) (timeout : Span)
  | operation (r : Request) (job : Job)
  | conclude (place : Nat) (r : Request) (result : Except ServiceFailure Value)
  | request (r : Request) (timeout : Span) (job : Job)
  | healthCheck (r : Request) (timeout : Span)

/-- What a caller comes back with. -/
inductive Returned where
  | begun (result : Except TransactionFailure Unit)
  | value (result : Except ServiceFailure Value)
  | checked (result : Except ServiceFailure Unit)

namespace Errand

/-- What is done for a caller. -/
def program (h : Hasher) : Errand → Program Returned
  | begin r timeout => (Transaction.start r timeout).map .begun
  | operation r job => (job.program h r).run.map .value
  | conclude _ r result => (Transaction.conclude r result).map .value
  | request r timeout job => (Transaction.run r timeout (job.program h r).run).map .value
  | healthCheck r timeout => (Transaction.healthCheck r timeout).map .checked

/-- The books with the caller's transaction at hand. -/
def focus : Errand → Books → Books
  | conclude place .., b => { b with current := place }
  | _, b => b

end Errand

/-- An errand with what came back, and the books before and behind it. -/
structure Visit where
  errand : Errand
  returned : Returned
  before : Books
  after : Books

/-- One errand. -/
def visit (h : Hasher) (o : Outside) (n : Notifier) (b : Books) (errand : Errand) : Visit :=
  let result := (errand.program h).play o n (errand.focus b)
  ⟨errand, result.1, b, result.2⟩

/-- Errands one after the other. -/
def visits (h : Hasher) (o : Outside) (n : Notifier) (b : Books) : List Errand → List Visit
  | [] => []
  | errand :: errands => visit h o n b errand :: visits h o n (visit h o n b errand).after errands

end Turnstile
