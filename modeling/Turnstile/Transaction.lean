import Turnstile.Program

namespace Turnstile

/-!
# Transactions

One database transaction with a deadline. It starts open and ends once: whoever claims the end first, be it
the caller's commit, the caller's rollback or the watchdog, goes on to the database, and everyone later is
told that it has ended, and why if it was rolled back for a reason.

* `Lifecycle.claim` is the single transition.
* `Transaction.commit`, `rollback`, `ping` and `conclude` are what the caller can do, `expire` is what the
  watchdog does at the deadline.
* `Transaction.start` opens a transaction, and `healthCheck` opens one only to probe it.
-/

/-! ### Life cycle -/

/-- Whether a transaction is open, or how it ended. -/
inductive Lifecycle where
  | isOpen
  | ended (ending : Ending)

/-- The cause that an ending leaves for those who come later. -/
def Ending.cause? : Ending → Option SystemFailure
  | .committed => none
  | .rolledBack cause => cause

/-- Claim the end of a transaction. -/
def Lifecycle.claim (l : Lifecycle) (ending : Ending) (operation : Operation) :
    Except TransactionFailure Lifecycle :=
  match l with
  | .isOpen => .ok (.ended ending)
  | .ended earlier => .error (.alreadyEnded operation earlier.cause?)

/-- The life cycle and the time of the end. -/
structure TransactionState where
  lifecycle : Lifecycle
  endedAt : Option Instant

namespace TransactionState

/-- The state of a new transaction. -/
def new : TransactionState := ⟨.isOpen, none⟩

/-- Claim the end at an instant. A claim that fails changes nothing. -/
def claim (t : TransactionState) (ending : Ending) (operation : Operation) (now : Instant) :
    Except TransactionFailure Unit × TransactionState :=
  match t.lifecycle.claim ending operation with
  | .ok l => (.ok (), ⟨l, some now⟩)
  | .error f => (.error f, t)

/-- Whether the transaction has not ended. -/
def isOpen (t : TransactionState) : Bool :=
  match t.lifecycle with
  | .isOpen => true
  | .ended _ => false

end TransactionState

namespace Transaction

/-! ### Ending a transaction -/

/-- Claim the end, and stop the watchdog if the claim succeeds. -/
def finish (ending : Ending) (operation : Operation) : Program (Except TransactionFailure Unit) := do
  match ← Program.perform (.claim ending operation) with
  | .ok () =>
    Program.perform .disarm
    return .ok ()
  | .error f => return .error f

/-- Call the database transaction. -/
def backend (operation : Operation) : Program (Except TransactionFailure Unit) := do
  match ← Program.perform (.backend operation) with
  | .ok () => return .ok ()
  | .error f => return .error (.backend operation f)

/-- Claim the end and, if the claim succeeds, carry it out. -/
def close (ending : Ending) (operation : Operation) : Program (Except TransactionFailure Unit) := do
  match ← finish ending operation with
  | .ok () => backend operation
  | .error f => return .error f

/-- Commit. -/
def commit : Program (Except TransactionFailure Unit) := close .committed .commit

/-- Roll back, for a reason or of the caller's own will. -/
def rollback (cause : Option SystemFailure) : Program (Except TransactionFailure Unit) :=
  close (.rolledBack cause) .rollback

/-- Probe the database transaction. -/
def ping : Program (Except TransactionFailure Unit) := backend .ping

/-! ### The watchdog -/

/-- What the watchdog does at the deadline: claim the end first, so that a transaction that has ended
    raises no alarm. -/
def expire (r : Request) (timeout : Span) : Program Unit := do
  let cause : SystemFailure := .transaction (.timeout timeout)
  match ← finish (.rolledBack (some cause)) .rollback with
  | .error _ => return ()
  | .ok () =>
    Program.perform (.alert r cause.message)
    match ← Program.perform (.backend .rollback) with
    | .ok () => return ()
    | .error f =>
      Program.perform (.log ⟨.error, "Watchdog rollback failed",
        [LogEntry.requestField r, ("error", .str f.message)]⟩)

/-! ### Concluding -/

/-- Tell operators of a failure; a notice that cannot be delivered is only logged. -/
def report (r : Request) (f : SystemFailure) : Program Unit := do
  Program.perform (.log ⟨.error, "System error",
    LogEntry.requestField r :: LogEntry.optionField "user_id" .int r.userId
      ++ [("error", .str f.chain)]⟩)
  match ← Program.perform (.notify (.failure r f.chain)) with
  | .ok () => return ()
  | .error fault =>
    Program.perform (.log ⟨.warn, "Error notification failed",
      [LogEntry.requestField r, ("error", .str fault.message)]⟩)

/-- Roll back behind a failure; a rollback that fails is only logged. -/
def rollbackAfter (r : Request) (warning : String) (cause : Option SystemFailure) :
    Program Unit := do
  match ← rollback cause with
  | .ok () => return ()
  | .error f =>
    Program.perform (.log ⟨.warn, warning,
      [LogEntry.requestField r, ("error", .str f.message)]⟩)

/-- End the transaction as its result demands: success commits, a rejection rolls back, and a system
    failure is reported and rolls back with itself as the cause. -/
def conclude (r : Request) (result : Except ServiceFailure α) :
    Program (Except ServiceFailure α) := do
  match result with
  | .ok value =>
    match ← commit with
    | .ok () => return .ok value
    | .error f =>
      report r (.transaction f)
      return .error (.transaction f)
  | .error (.rejected rejection) =>
    rollbackAfter r "Rollback after validation error failed" none
    return .error (.rejected rejection)
  | .error (.system f) =>
    report r f
    rollbackAfter r "Rollback after system error failed" (some f)
    return .error (.system f)

/-! ### Opening -/

/-- Open a transaction that is rolled back unless it ends in time. -/
def start (r : Request) (timeout : Span) : Program (Except TransactionFailure Unit) := do
  match ← Program.perform .begin with
  | .error f => return .error (.notBegun f)
  | .ok () =>
    Program.perform (.log ⟨.debug, "Service transaction started",
      [LogEntry.requestField r, ("timeout", .str timeout.text)]⟩)
    Program.perform (.arm r timeout)
    return .ok ()

/-- The warning that an open transaction was let go. -/
def droppedEntry (r : Request) (timeout : Span) : LogEntry where
  level := .warn
  message := "Service transaction dropped while open; watchdog will roll it back"
  fields := [LogEntry.requestField r, ("timeout", .str timeout.text)]

/-- Run an operation in a transaction of its own. -/
def run (r : Request) (timeout : Span) (operation : Program (Except ServiceFailure α)) :
    Program (Except ServiceFailure α) := do
  match ← start r timeout with
  | .error f => return .error (.transaction f)
  | .ok () => conclude r (← operation)

/-- A probe as an operation. -/
def probe : Program (Except ServiceFailure Unit) := do
  match ← ping with
  | .ok () => return .ok ()
  | .error f => return .error (.transaction f)

/-- Open a transaction, probe it, and commit. -/
def healthCheck (r : Request) (timeout : Span) : Program (Except ServiceFailure Unit) :=
  run r timeout probe

end Transaction

end Turnstile
