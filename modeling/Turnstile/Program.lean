import Turnstile.Failure.System
import Turnstile.Log
import Turnstile.Repository
import Turnstile.Webhook

namespace Turnstile

open Credential (Draw Salt)

/-!
# Programs

What an operation does, as a tree: it asks its surroundings for one thing after another and goes on with
the answers. Who answers, and what happens between two questions of the same operation, is left open; so
one definition serves for a run on a store, for any interleaving of several operations, and for proofs
about both.

* `Effect` lists what can be asked, and `Effect.Answer` gives the type of the answer.
* `Program` is the tree, with the operations of a monad.
* `Service` adds failures that end an operation.
-/

/-! ### Questions -/

/-- How a transaction ended. A rollback that was not asked for by the caller has a cause. -/
inductive Ending where
  | committed
  | rolledBack (cause : Option SystemFailure)

/-- What an operation can ask for. -/
inductive Effect where
  /-- Open a database transaction. -/
  | begin
  /-- Start the watchdog of the transaction. -/
  | arm (request : Request) (timeout : Span)
  /-- Claim the end of the transaction; only the first claim succeeds. -/
  | claim (ending : Ending) (operation : Operation)
  /-- Stop the watchdog. -/
  | disarm
  /-- Commit, roll back or probe the database transaction. -/
  | backend (operation : Operation)
  | users (call : UserCall)
  | sessions (call : SessionCall)
  /-- Read the clock. -/
  | clock
  /-- Draw a salt at random. -/
  | salt
  /-- Draw a token's seed and salts at random. -/
  | draw
  /-- Tell operators by webhook. -/
  | notify (notice : Webhook.Notice)
  /-- Raise an alarm. -/
  | alert (request : Request) (message : String)
  | log (entry : LogEntry)

/-- The type of the answer to a question. -/
@[reducible] def Effect.Answer : Effect → Type
  | begin | backend _ => Except RepositoryFailure Unit
  | claim .. => Except TransactionFailure Unit
  | users call => Except RepositoryFailure call.Result
  | sessions call => Except RepositoryFailure call.Result
  | clock => Instant
  | salt => Salt
  | draw => Draw
  | notify _ => Except Webhook.DeliveryFault Unit
  | arm .. | disarm | alert .. | log _ => Unit

/-! ### Programs -/

/-- What an operation does until it is done. -/
inductive Program (α : Type) where
  | done (value : α)
  | ask (effect : Effect) (next : effect.Answer → Program α)

namespace Program

/-- Do one program, then another that depends on its value. -/
def bind : Program α → (α → Program β) → Program β
  | done value, f => f value
  | ask effect next, f => ask effect fun answer => (next answer).bind f

instance : Monad Program where
  pure := done
  bind := bind

@[simp] theorem pure_eq (value : α) : (pure value : Program α) = done value := rfl

@[simp] theorem bind_eq (p : Program α) (f : α → Program β) : p >>= f = p.bind f := rfl

@[simp] theorem done_bind (value : α) (f : α → Program β) : (done value).bind f = f value := rfl

@[simp] theorem ask_bind (effect : Effect) (next : effect.Answer → Program α)
    (f : α → Program β) : (ask effect next).bind f = ask effect fun a => (next a).bind f := rfl

@[simp] theorem bind_done (p : Program α) : p.bind done = p := by
  induction p with
  | done value => rfl
  | ask effect next ih => simp only [ask_bind, ih]

theorem bind_assoc (p : Program α) (f : α → Program β) (g : β → Program γ) :
    (p.bind f).bind g = p.bind fun a => (f a).bind g := by
  induction p with
  | done value => rfl
  | ask effect next ih => simp only [ask_bind, ih]

/-- Ask one question. -/
def perform (effect : Effect) : Program effect.Answer := ask effect done

/-- Change the value of a program. -/
def map (f : α → β) (p : Program α) : Program β := p.bind fun a => done (f a)

end Program

/-! ### Operations that can fail -/

/-- A program that may end in a failure. -/
abbrev Service := ExceptT ServiceFailure Program

namespace Service

/-- Ask one question. -/
def perform (effect : Effect) : Service effect.Answer := ExceptT.lift (Program.perform effect)

/-- End with a rejection. -/
def reject (r : Rejection) : Service α := throw (.rejected r)

/-- Go on with a value, or end with a rejection if it is absent. -/
def orReject (r : Rejection) : Option α → Service α
  | some a => pure a
  | none => reject r

/-- Go on with a checked value, or end with its rejection. -/
def checked : Except Rejection α → Service α
  | .ok a => pure a
  | .error r => reject r

/-- Go on with the result of a repository, or end with its failure. -/
def repository (context : String) : Except RepositoryFailure α → Service α
  | .ok a => pure a
  | .error f => throw (.repository context f)

/-- Go on with the result of hashing, or end with its failure. -/
def credential (context : String) : Except Credential.CredentialError α → Service α
  | .ok a => pure a
  | .error e => throw (.credential context e)

/-- Call the table of users. -/
def users (context : String) (call : UserCall) : Service call.Result := do
  repository context (← perform (.users call))

/-- Call the table of sessions. -/
def sessions (context : String) (call : SessionCall) : Service call.Result := do
  repository context (← perform (.sessions call))

/-- Write a log entry about a request. -/
def log (r : Request) (level : Level) (message : String) (fields : List (String × Json)) :
    Service Unit :=
  perform (.log ⟨level, message, LogEntry.requestField r :: fields⟩)

end Service

end Turnstile
