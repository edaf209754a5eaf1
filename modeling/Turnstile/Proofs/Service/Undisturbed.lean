import Turnstile.Proofs.Service.Jobs

namespace Turnstile

open Credential (Hasher)

/-!
# Operations that nobody disturbs

An operation that runs by itself from beginning to end is a function of the store and of what its other
surroundings answer.

* `Program.runOn` is this function, and `Service.runOn` the same for operations that can fail, with a rule
  for each of their parts. `Program.advance` goes only part of the way.
* `Run.undisturbed`: running a task to its end without a break is one of the runs of the system, and so is
  running it part of the way (`Run.advance`). `exists_run_overtaken` puts the two together.
-/

/-- The answers to everything but calls on the store. -/
abbrev Surroundings := (e : Effect) → e.Answer

/-- Surroundings in which nothing fails, at an instant; what should be random is all zeros. -/
def Surroundings.calm (now : Instant) : Surroundings
  | .begin | .backend _ | .claim .. | .notify _ => .ok ()
  | .users _ | .sessions _ => .error (.closed "")
  | .clock => now
  | .salt => ⟨List.replicate 16 0, rfl⟩
  | .draw => ⟨⟨List.replicate 25 0, rfl⟩, ⟨List.replicate 16 0, rfl⟩, ⟨List.replicate 16 0, rfl⟩⟩
  | .arm .. | .disarm | .alert .. | .log _ => ()

/-- How a store and its surroundings answer. -/
def Store.reply (s : Store) (o : Surroundings) : (e : Effect) → e.Answer × Store
  | .users call => s.callUsers call
  | .sessions call => s.callSessions call
  | e => (o e, s)

/-- What a program comes back with, and the store behind it, if nobody disturbs it. -/
def Program.runOn (o : Surroundings) : Program α → Store → α × Store
  | done value, s => (value, s)
  | ask e next, s => (next (s.reply o e).1).runOn o (s.reply o e).2

/-- What is left of a program behind so many answers, and the store behind them. -/
def Program.advance (o : Surroundings) : Program α → Nat → Store → Program α × Store
  | p, 0, s => (p, s)
  | done value, _ + 1, s => (done value, s)
  | ask e next, n + 1, s => (next (s.reply o e).1).advance o n (s.reply o e).2

/-- Behind enough answers a program has come to its end. -/
theorem Program.exists_advance_runOn (o : Surroundings) (p : Program α) (s : Store) :
    ∃ n, p.advance o n s = (.done (p.runOn o s).1, (p.runOn o s).2) := by
  induction p generalizing s with
  | done value => exact ⟨0, rfl⟩
  | ask e next ih =>
    obtain ⟨n, hn⟩ := ih (s.reply o e).1 (s.reply o e).2
    exact ⟨n + 1, hn⟩

/-- The exchange was answered by the store and its surroundings. -/
def Exchange.Replied (o : Surroundings) (x : Exchange Store) : Prop :=
  x.before.reply o x.effect = (x.answer, x.after)

/-- A reply is an answer of the store itself. -/
theorem Exchange.Replied.served {o : Surroundings} {x : Exchange Store} (h : x.Replied o) : x.Served := by
  obtain ⟨e, answer, before, after⟩ := x
  cases e with
  | users call => exact h
  | sessions call => exact h
  | _ => exact (Prod.mk.inj h).2.symm

theorem Store.reply_serves (s : Store) (o : Surroundings) (e : Effect) :
    s.Serves e (s.reply o e).1 (s.reply o e).2 :=
  Exchange.Replied.served (x := ⟨e, (s.reply o e).1, s, (s.reply o e).2⟩) rfl

theorem Program.runOn_bind (o : Surroundings) (p : Program α) (f : α → Program β) (s : Store) :
    (p.bind f).runOn o s = (f (p.runOn o s).1).runOn o (p.runOn o s).2 := by
  induction p generalizing s with
  | done value => rfl
  | ask e next ih => exact ih _ _

/-! ### Operations that can fail -/

namespace Service

variable {o : Surroundings} {s : Store} {α β : Type}

/-- What an operation comes back with, and the store behind it, if nobody disturbs it. -/
def runOn (o : Surroundings) (m : Service α) (s : Store) : Except ServiceFailure α × Store :=
  m.run.runOn o s

/-- Go on from where an operation has come to; a failure is the end. -/
def goOn (o : Surroundings) (f : α → Service β) :
    Except ServiceFailure α × Store → Except ServiceFailure β × Store
  | (.ok value, s) => (f value).runOn o s
  | (.error failure, s) => (.error failure, s)

@[simp] theorem goOn_ok (f : α → Service β) (value : α) :
    goOn o f (.ok value, s) = (f value).runOn o s := rfl

@[simp] theorem goOn_error (f : α → Service β) (failure : ServiceFailure) :
    goOn o f (.error failure, s) = (.error failure, s) := rfl

@[simp] theorem runOn_pure (value : α) : runOn o (pure value) s = (.ok value, s) := rfl

@[simp] theorem runOn_throw (failure : ServiceFailure) :
    runOn o (throw failure : Service α) s = (.error failure, s) := rfl

@[simp] theorem runOn_reject (r : Rejection) :
    runOn o (reject r : Service α) s = (.error (.rejected r), s) := rfl

@[simp] theorem runOn_checked (checked : Except Rejection α) :
    runOn o (Service.checked checked) s = (checked.mapError .rejected, s) := by
  cases checked <;> rfl

@[simp] theorem runOn_orReject (r : Rejection) (value : Option α) :
    runOn o (orReject r value) s = (value.elim (.error (.rejected r)) .ok, s) := by
  cases value <;> rfl

@[simp] theorem runOn_bind (m : Service α) (f : α → Service β) :
    runOn o (m >>= f) s = goOn o f (runOn o m s) := by
  show (m.run.bind (ExceptT.bindCont f)).runOn o s = _
  rw [Program.runOn_bind]
  show _ = goOn o f (m.run.runOn o s)
  rcases m.run.runOn o s with ⟨failure | value, s'⟩ <;> rfl

theorem runOn_perform (e : Effect) :
    runOn o (perform e) s = (.ok (s.reply o e).1, (s.reply o e).2) := rfl

@[simp] theorem runOn_clock : runOn o (perform .clock) s = (.ok (o .clock), s) := rfl

@[simp] theorem runOn_salt : runOn o (perform .salt) s = (.ok (o .salt), s) := rfl

@[simp] theorem runOn_log (r : Request) (level : Level) (message : String)
    (fields : List (String × Json)) : runOn o (Service.log r level message fields) s = (.ok (), s) :=
  rfl

@[simp] theorem runOn_users (context : String) (call : UserCall) :
    runOn o (users context call) s
      = ((s.callUsers call).1.mapError (.repository context), (s.callUsers call).2) := by
  rw [users, runOn_bind, runOn_perform, goOn_ok]
  show (repository context (s.callUsers call).1).runOn o (s.callUsers call).2 = _
  rcases (s.callUsers call).1 with f | value <;> rfl

@[simp] theorem runOn_sessions (context : String) (call : SessionCall) :
    runOn o (sessions context call) s
      = ((s.callSessions call).1.mapError (.repository context), (s.callSessions call).2) := by
  rw [sessions, runOn_bind, runOn_perform, goOn_ok]
  show (repository context (s.callSessions call).1).runOn o (s.callSessions call).2 = _
  rcases (s.callSessions call).1 with f | value <;> rfl

end Service

/-! ### Among the runs of the system -/

section Undisturbed

variable {h : Hasher} {start c : Crowd Store (Request × Job) (Except ServiceFailure Value)}
  {T : Trace Store} {i : Nat} {job : Request × Job} {p : Program (Except ServiceFailure Value)}

/-- A task that exchanges nothing stays as it is. -/
theorem System.Run.stays (run : (service h).Run start T c) (o : Surroundings)
    (task : c.tasks[i]? = some ⟨job, p⟩) :
    ∃ T', (service h).Run start (T ++ T') ⟨c.shared, c.tasks.set i ⟨job, p⟩⟩ ∧
      ∀ step ∈ T', step.1 = i ∧ step.2.Replied o := by
  have hset : c.tasks.set i ⟨job, p⟩ = c.tasks := by
    rw [← (List.getElem?_eq_some_iff.1 task).2, List.set_getElem_self]
  refine ⟨[], ?_, fun _ h => nomatch h⟩
  rwa [List.append_nil, hset]

/-- **A task may go on by itself** for as long as one likes. -/
theorem System.Run.advance (run : (service h).Run start T c) (o : Surroundings) (n : Nat)
    (task : c.tasks[i]? = some ⟨job, p⟩) :
    ∃ T', (service h).Run start (T ++ T')
        ⟨(p.advance o n c.shared).2, c.tasks.set i ⟨job, (p.advance o n c.shared).1⟩⟩ ∧
      ∀ step ∈ T', step.1 = i ∧ step.2.Replied o := by
  induction n generalizing p T c with
  | zero =>
    rw [Program.advance]
    exact run.stays o task
  | succ n ih =>
    cases p with
    | done value => exact run.stays o task
    | ask e next =>
      -- one step that the store itself answers, and then on by induction
      have hreplied : Exchange.Replied o ⟨e, (c.shared.reply o e).1, c.shared, (c.shared.reply o e).2⟩ := rfl
      have hnext := run.step _ task rfl (.inl hreplied.served)
      have hi := (List.getElem?_eq_some_iff.1 task).1
      obtain ⟨T', hrun, hT'⟩ := ih hnext (List.getElem?_set_self hi)
      rw [List.append_assoc, List.set_set] at hrun
      refine ⟨_, hrun, fun step hstep => ?_⟩
      rcases List.mem_cons.1 hstep with rfl | hstep
      · exact ⟨rfl, hreplied⟩
      · exact hT' step hstep

/-- **A task may go on to its end without a break**, and then does what it does by itself. -/
theorem System.Run.undisturbed (run : (service h).Run start T c) (o : Surroundings)
    (task : c.tasks[i]? = some ⟨job, p⟩) :
    ∃ T', (service h).Run start (T ++ T')
        ⟨(p.runOn o c.shared).2, c.tasks.set i ⟨job, .done (p.runOn o c.shared).1⟩⟩ ∧
      ∀ step ∈ T', step.1 = i ∧ step.2.Served := by
  obtain ⟨n, hn⟩ := p.exists_advance_runOn o c.shared
  obtain ⟨T', hrun, hT'⟩ := run.advance o n task
  rw [hn] at hrun
  exact ⟨T', hrun, fun step hstep => (hT' step hstep).imp_right Exchange.Replied.served⟩

/-- **Overtaking.** Of two jobs, the first goes part of the way, the second one goes to its end without a
    break, and then the first one does. -/
theorem exists_run_overtaken {o : Surroundings} {n : Nat} {s s₁ s₂ s₃ : Store}
    {first second : Request × Job} {value value' : Except ServiceFailure Value}
    (part : ((service h).program first).advance o n s = (p, s₁))
    (whole : ((service h).program second).runOn o s₁ = (value', s₂)) (rest : p.runOn o s₂ = (value, s₃)) :
    ∃ T, (service h).Run ⟨s, []⟩ T ⟨s₃, [⟨first, .done value⟩, ⟨second, .done value'⟩]⟩ := by
  have opened : (service h).Run ⟨s, []⟩ [] ⟨s, []⟩ := .start
  have launched : (service h).Run ⟨s, []⟩ [] ⟨s, [⟨first, (service h).program first⟩,
    ⟨second, (service h).program second⟩]⟩ := (opened.launch first).launch second
  obtain ⟨T₁, run₁, -⟩ := launched.advance (i := 0) o n rfl
  rw [part] at run₁
  obtain ⟨T₂, run₂, -⟩ := run₁.undisturbed (i := 1) o rfl
  rw [whole] at run₂
  obtain ⟨T₃, run₃, -⟩ := run₂.undisturbed (i := 0) o rfl
  rw [rest] at run₃
  exact ⟨_, run₃⟩

end Undisturbed

end Turnstile
