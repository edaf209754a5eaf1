import Turnstile.Proofs.Service.Questions

namespace Turnstile

open Credential (Hasher)

/-!
# Operations inside a transaction

An operation works inside the transaction that its request has opened: it neither opens nor ends one, and it
leaves it to the request to tell operators of failures.

* `Effect.Inside` lists what such an operation may ask for.
* `job_inside`: each operation of the service is one.
-/

/-- Neither opening a transaction nor ending it, nor raising an alarm or reporting a failure. -/
def Effect.Inside : Effect → Prop
  | .begin | .arm .. | .claim .. | .disarm | .alert .. => False
  | .backend operation => operation = .ping
  | .notify notice => ∃ r title text, notice = .event r title text
  | .users _ | .sessions _ | .clock | .salt | .draw | .log _ => True

/-- The operation asks only for what may be asked inside a transaction. -/
structure Service.Inside {α : Type} (m : Service α) : Prop where
  asks : m.run.Asks Effect.Inside

/-- **Each operation of the service works inside the transaction of its request.** -/
theorem job_inside (h : Hasher) (r : Request) (job : Job) : (job.program h r).Inside := by
  have plain (e : Effect) (hplain : e.Plain) : e.Inside := by
    cases e with
    | users | sessions | clock | salt | draw | log => exact trivial
    | _ => exact hplain.elim
  have told (text : String) : (Effect.notify (.event r Accounts.newUserTitle text)).Inside :=
    ⟨r, Accounts.newUserTitle, text, rfl⟩
  exact ⟨(job_asks plain job (fun _ _ _ => trivial) (fun _ _ => told) (fun _ _ _ _ _ => trivial)
    (fun _ _ => trivial) fun _ _ _ => trivial).program⟩

end Turnstile
