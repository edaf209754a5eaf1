import Turnstile.Proofs.Watch
import Turnstile.Transaction

namespace Turnstile

/-!
# Calls that end a transaction

Commit, rollback, the conclusion of a result and the watchdog at the deadline all end a transaction in the
same way: they claim the end, and whoever is granted the claim stops the watchdog and calls the database.

* `Closing` lists the calls, `Closing.ending` says how each means to end the transaction, and
  `Closing.verdict` what it comes back with.
* `closings` is the system in which any number of them run at once on one life cycle.
* `Closing.passes` is the protocol that each of them keeps on its own: it claims once, it calls the
  database only behind a claim that was granted (the watchdog raises its alarm in between), and it does
  not come back before that call.
-/

variable {α : Type}

/-- The operation that carries an ending out. -/
def Ending.operation : Ending → Operation
  | .committed => .commit
  | .rolledBack _ => .rollback

/-! ### The calls -/

/-- A call that ends the transaction, or the watchdog at the deadline. -/
inductive Closing (α : Type) where
  | commit
  | rollback (cause : Option SystemFailure)
  | conclude (request : Request) (result : Except ServiceFailure α)
  | expire (request : Request) (timeout : Span)

/-- What a call comes back with. -/
inductive Verdict (α : Type) where
  | ended (result : Except TransactionFailure Unit)
  | concluded (result : Except ServiceFailure α)
  | expired

namespace Closing

/-- What a call does. -/
def program : Closing α → Program (Verdict α)
  | commit => Transaction.commit.map .ended
  | rollback cause => (Transaction.rollback cause).map .ended
  | conclude r result => (Transaction.conclude r result).map .concluded
  | expire r timeout => (Transaction.expire r timeout).map fun _ => .expired

/-- How a call means to end the transaction. -/
def ending : Closing α → Ending
  | commit => .committed
  | rollback cause => .rolledBack cause
  | conclude _ (.ok _) => .committed
  | conclude _ (.error (.rejected _)) => .rolledBack none
  | conclude _ (.error (.system f)) => .rolledBack (some f)
  | expire _ timeout => .rolledBack (some (.transaction (.timeout timeout)))

/-- What a call comes back with once ending the transaction has had a result. Only the conclusion of a
    success depends on it: a failure stays the failure that it was. -/
def verdict : Closing α → Except TransactionFailure Unit → Verdict α
  | commit, result | rollback _, result => .ended result
  | conclude _ (.ok value), .ok () => .concluded (.ok value)
  | conclude _ (.ok _), .error f => .concluded (.error (.transaction f))
  | conclude _ (.error f), _ => .concluded (.error f)
  | expire .., _ => .expired

end Closing

/-! ### The system -/

/-- How the life cycle of a transaction answers: a claim is decided at once, at whatever time the clock
    shows, and nothing else touches it. All other answers are open. -/
def TransactionState.Answers (t : TransactionState) :
    (e : Effect) → e.Answer → TransactionState → Prop
  | .claim ending operation, answer, t' => ∃ now, t.claim ending operation now = (answer, t')
  | _, _, t' => t' = t

/-- Calls on one transaction. The watchdog is one of them: that the timer runs out is its launch, at any
    time or never. A watchdog that has been stopped just when its timer ran out may still wake up, so
    stopping it rules nothing out here. -/
def closings (α : Type) : System TransactionState (Closing α) (Verdict α) where
  program := Closing.program
  answers := TransactionState.Answers

/-! ### The protocol of one call -/

/-- How far a call has come, and which alarms it has raised behind its claim. -/
inductive Phase where
  | claiming
  | lost (failure : TransactionFailure)
  | won (alarms : List (Request × String))
  | called (alarms : List (Request × String)) (result : Except RepositoryFailure Unit)

namespace Phase

/-- The alarms raised so far. -/
def alarms : Phase → List (Request × String)
  | won l | called l _ => l
  | claiming | lost _ => []

/-- A claim, an alarm and a call of the database take a call further. -/
def note (p : Phase) : Exchange TransactionState → Phase
  | ⟨.claim .., .ok (), _, _⟩ => won []
  | ⟨.claim .., .error f, _, _⟩ => lost f
  | ⟨.alert r message, _, _, _⟩ => won (p.alarms ++ [(r, message)])
  | ⟨.backend .ping, _, _, _⟩ => p
  | ⟨.backend _, result, _, _⟩ => called p.alarms result
  | _ => p

/-- What ending the transaction has come to, if it has come to anything. -/
def result? (operation : Operation) : Phase → Option (Except TransactionFailure Unit)
  | claiming | won _ => none
  | lost f => some (.error f)
  | called _ (.ok ()) => some (.ok ())
  | called _ (.error f) => some (.error (.backend operation f))

end Phase

namespace Closing

/-- The alarms that a call raises once its claim has been granted: only the watchdog raises one. -/
def alarms : Closing α → List (Request × String)
  | expire r timeout => [(r, (SystemFailure.transaction (.timeout timeout)).message)]
  | _ => []

/-- What may be asked in a phase: the call's own claim, once; its alarm only behind a claim that was
    granted; and its own call of the database only behind both. -/
def Permits (k : Closing α) (p : Phase) : Effect → Prop
  | .claim ending operation =>
    p = .claiming ∧ ending = k.ending ∧ operation = k.ending.operation
  | .alert r message => p = .won [] ∧ k.alarms = [(r, message)]
  | .backend operation => p = .won k.alarms ∧ operation = k.ending.operation
  | _ => True

/-- The watch that keeps track of the phase of a call. -/
def watch (k : Closing α) : Watch TransactionState Phase where
  note := Phase.note
  demands := fun p x => k.Permits p x.effect

/-- A call comes back with the verdict on its result. -/
def Returns (k : Closing α) (p : Phase) (v : Verdict α) : Prop :=
  ∃ result, p.result? k.ending.operation = some result ∧ v = k.verdict result

/-- Reporting a failure neither claims nor calls. -/
theorem report_passes (k : Closing α) (p : Phase) (r : Request) (f : SystemFailure) :
    (Transaction.report r f).Passes k.watch (fun q _ => q = p) p := by
  simp only [Transaction.report, Program.perform, Program.bind_eq, Program.ask_bind,
    Program.done_bind]
  intro _ _ _
  refine ⟨trivial, ?_⟩
  intro delivery _ _
  refine ⟨trivial, ?_⟩
  rcases delivery with fault | ⟨⟩
  · intro _ _ _
    exact ⟨trivial, rfl⟩
  · rfl

/-- Claiming the end and stopping the watchdog: the result tells whether the claim was granted. -/
theorem finish_passes (k : Closing α) :
    (Transaction.finish k.ending k.ending.operation).Passes k.watch
      (fun p result => match result with
        | .ok () => p = .won []
        | .error f => p = .lost f) .claiming := by
  simp only [Transaction.finish, Program.perform, Program.bind_eq, Program.ask_bind,
    Program.done_bind]
  intro claim _ _
  refine ⟨⟨rfl, rfl, rfl⟩, ?_⟩
  rcases claim with f | ⟨⟩
  · rfl
  · intro _ _ _
    exact ⟨trivial, rfl⟩

/-- Calling the database behind a claim that was granted, with nothing left to raise. -/
theorem backend_passes (k : Closing α) :
    (Transaction.backend k.ending.operation).Passes k.watch
      (fun p result => p.result? k.ending.operation = some result) (.won k.alarms) := by
  simp only [Transaction.backend, Program.perform, Program.bind_eq, Program.ask_bind,
    Program.done_bind]
  intro answer _ _
  refine ⟨⟨rfl, rfl⟩, ?_⟩
  rcases answer with f | ⟨⟩ <;> cases k.ending <;> rfl

/-- Claiming the end and carrying it out. -/
theorem close_passes (k : Closing α) (hk : k.alarms = []) :
    (Transaction.close k.ending k.ending.operation).Passes k.watch
      (fun p result => p.result? k.ending.operation = some result) .claiming := by
  rw [Transaction.close, Program.bind_eq, Program.passes_bind]
  refine k.finish_passes.mono ?_
  rintro p (f | ⟨⟩) rfl
  · rfl
  · rw [← hk]
    exact k.backend_passes

/-- Rolling back behind a failure. -/
theorem rollbackAfter_passes (k : Closing α) (r : Request) (warning : String)
    {cause : Option SystemFailure} (hk : k.ending = .rolledBack cause) (quiet : k.alarms = []) :
    (Transaction.rollbackAfter r warning cause).Passes k.watch
      (fun p _ => ∃ result, p.result? k.ending.operation = some result) .claiming := by
  rw [Transaction.rollbackAfter, Program.bind_eq, Program.passes_bind]
  have hclose := k.close_passes quiet
  rw [hk] at hclose ⊢
  refine hclose.mono ?_
  rintro p (f | ⟨⟩) hp
  · intro _ _ _
    exact ⟨trivial, _, hp⟩
  · exact ⟨_, hp⟩

/-- **The protocol of a call.** Whatever it is answered, a call claims the end once, calls the database
    only behind a claim that was granted, and comes back with the verdict on its result. -/
theorem passes (k : Closing α) : k.program.Passes k.watch k.Returns .claiming := by
  cases k with
  | commit =>
    simp only [program, Program.map, Program.passes_bind]
    exact (close_passes commit rfl).mono fun p result h => ⟨result, h, rfl⟩
  | rollback cause =>
    simp only [program, Program.map, Program.passes_bind]
    exact (close_passes (rollback cause) rfl).mono fun p result h => ⟨result, h, rfl⟩
  | conclude r result =>
    simp only [program, Program.map, Transaction.conclude, Program.passes_bind]
    rcases result with (rejection | f) | value
    · -- a rejection is no incident: nothing is reported
      simp only [Program.bind_eq, Program.passes_bind]
      refine (rollbackAfter_passes _ r _ rfl rfl).mono ?_
      rintro p - ⟨result, h⟩
      exact ⟨result, h, rfl⟩
    · -- a failure is reported while the end is still to be claimed
      simp only [Program.bind_eq, Program.passes_bind]
      refine (report_passes _ _ r f).mono ?_
      rintro p - rfl
      refine (rollbackAfter_passes _ r _ rfl rfl).mono ?_
      rintro p - ⟨result, h⟩
      exact ⟨result, h, rfl⟩
    · simp only [Program.bind_eq, Program.passes_bind]
      refine (close_passes (conclude r (.ok value)) rfl).mono ?_
      rintro p (f | ⟨⟩) h
      · -- a commit that has failed is reported, behind the end
        simp only [Program.passes_bind]
        refine (report_passes _ p r _).mono ?_
        rintro q - rfl
        exact ⟨_, h, rfl⟩
      · exact ⟨_, h, rfl⟩
  | expire r timeout =>
    simp only [program, Program.map, Transaction.expire, Program.bind_eq, Program.passes_bind]
    refine (finish_passes (expire r timeout)).mono ?_
    rintro p (f | ⟨⟩) rfl
    · -- the timer ran out too late
      exact ⟨_, rfl, rfl⟩
    · -- first the alarm, then the database
      simp only [Program.perform, Program.passes_bind]
      intro _ _ _
      refine ⟨⟨rfl, rfl⟩, ?_⟩
      intro answer _ _
      refine ⟨⟨rfl, rfl⟩, ?_⟩
      rcases answer with f | ⟨⟩
      · intro _ _ _
        exact ⟨trivial, _, rfl, rfl⟩
      · exact ⟨_, rfl, rfl⟩

end Closing

end Turnstile
