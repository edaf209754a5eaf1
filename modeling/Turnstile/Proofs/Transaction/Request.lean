import Turnstile.Proofs.Service.Inside
import Turnstile.Proofs.Transaction.Closing
import Turnstile.Proofs.Transaction.Conclude

namespace Turnstile

/-!
# What a request is answered, and what the database has done

A request opens a transaction, runs one operation in it, and concludes the result. In between, and while it
concludes, the watchdog may end the transaction at any time, and so may others who hold it.

* `requests` is the system of a request and of the calls that end its transaction. Until the request has
  opened the transaction, there is nothing to end.
* `Agrees` says how the answer agrees with what the database was asked and has answered, and with what
  operators were told.
* `granted_unique`: of all claims in a run, at most one is granted.
* `agrees_of_task` is the proof. `request_agrees` says so of all operations that work inside the transaction;
  the health check (`healthCheck_agrees`) and each operation of the service (`job_agrees`) are among them.
-/

open Credential (Hasher)
open Transaction (CommitFails CommittedIn Concluded GrantedIn RollsBack reports)

variable {α : Type}

/-! ### The system -/

/-- A request with its operation, or a call that ends its transaction. -/
inductive Party (α : Type) where
  | request (r : Request) (timeout : Span) (operation : Program (Except ServiceFailure α))
  | closing (call : Closing α)

/-- What a party does. -/
def Party.program : Party α → Program (Verdict α)
  | request r timeout operation => (Transaction.run r timeout operation).map .concluded
  | closing call => call.program

/-- The health check is a request whose operation is a probe. -/
theorem program_healthCheck (r : Request) (timeout : Span) :
    (Party.request r timeout Transaction.probe).program
      = (Transaction.healthCheck r timeout).map .concluded := rfl

/-- A probe works inside the transaction. -/
theorem probe_inside : Transaction.probe.Asks Effect.Inside := by
  refine Program.Asks.bind ?_ fun result => ?_
  · refine (Program.asks_perform (by exact rfl)).bind fun answer => ?_
    cases answer <;> exact trivial
  · cases result <;> exact trivial

/-- How the life cycle answers, from the moment on that the watchdog is started: before that, there is
    none. -/
def lifecycleAnswers : Option TransactionState → (e : Effect) → e.Answer → Option TransactionState → Prop
  | t, .arm .., _, t' => t = none ∧ t' = some .new
  | t, .claim ending operation, answer, t' =>
    ∃ s s', t = some s ∧ s.Answers (.claim ending operation) answer s' ∧ t' = some s'
  | t, _, _, t' => t' = t

/-- A request and those who may end its transaction. -/
def requests (α : Type) : System (Option TransactionState) (Party α) (Verdict α) where
  program := Party.program
  answers := lifecycleAnswers

/-! ### What is claimed -/

/-- The request has opened its transaction, its operation has come to a result, and this is what its
    conclusion has exchanged since. -/
def Concluding {σ : Type} (r : Request) (timeout : Span) (operation : Program (Except ServiceFailure α))
    (own : List (Exchange σ)) (result : Except ServiceFailure α) (xs : List (Exchange σ)) : Prop :=
  ∃ opening ys, own = opening ++ ys ++ xs ∧
    (Transaction.start r timeout).Leads opening (.done (.ok ())) ∧ operation.Leads ys (.done result)

/-- What operators are to be told of an answer. -/
def told : Except ServiceFailure α → List String
  | .error (.system f) => [f.chain]
  | .error (.rejected _) | .ok _ => []

/-- The cause that a rollback behind a failure names; a rejection is none. -/
def causeOf : ServiceFailure → Option SystemFailure
  | .rejected _ => none
  | .system f => some f

/-- All other tasks are watchdogs. -/
def OnlyWatched (c : Crowd (Option TransactionState) (Party α) (Verdict α)) (i : Nat) : Prop :=
  ∀ j k, j ≠ i → c.job? j = some k → ∃ r timeout, k = .closing (.expire r timeout)

/-- **The answer of a request**, at a point of a run. -/
structure Agrees (T : Trace (Option TransactionState))
    (c : Crowd (Option TransactionState) (Party α) (Verdict α)) (i : Nat) (r : Request) (timeout : Span)
    (operation : Program (Except ServiceFailure α)) : Prop where
  /-- A transaction that cannot be opened is all that the request has asked for, and this is its answer. -/
  notBegun : ∀ f before after, (i, ⟨.begin, .error f, before, after⟩) ∈ T →
    T.own i = [⟨.begin, .error f, before, after⟩] ∧
      c.Finished i (.request r timeout operation) (.concluded (.error (.transaction (.notBegun f))))
  /-- Otherwise a request that has come back has concluded a result of its operation. -/
  through : ∀ v, c.Finished i (.request r timeout operation) v →
    (∃ f before after, (i, ⟨.begin, .error f, before, after⟩) ∈ T) ∨
      ∃ result xs answer, Concluding r timeout operation (T.own i) result xs ∧ v = .concluded answer
  /-- It answers with a value exactly if that was the result, its claim was granted, and the database has
      committed. -/
  success : ∀ result xs answer value, Concluding r timeout operation (T.own i) result xs →
    c.Finished i (.request r timeout operation) (.concluded answer) →
    (answer = .ok value ↔ result = .ok value ∧ GrantedIn xs ∧ CommittedIn xs)
  /-- Behind a failure, it never asks for a commit, and the answer is this failure, however the rollback
      ends. -/
  failure : ∀ f xs, Concluding r timeout operation (T.own i) (.error f) xs →
    (∀ x ∈ T.own i, x.effect ≠ .backend .commit) ∧
      ∀ answer, c.Finished i (.request r timeout operation) (.concluded answer) → answer = .error f
  /-- It claims the rollback for this cause, and asks the database for it exactly if the claim is granted. -/
  rolledBack : ∀ f xs answer, Concluding r timeout operation (T.own i) (.error f) xs →
    c.Finished i (.request r timeout operation) (.concluded answer) → RollsBack xs (causeOf f)
  /-- Behind a success, it never asks for a rollback; and if the commit is refused or fails, the answer is
      that failure. -/
  refused : ∀ value xs, Concluding r timeout operation (T.own i) (.ok value) xs →
    (∀ x ∈ T.own i, x.effect ≠ .backend .rollback) ∧
      ∀ answer, c.Finished i (.request r timeout operation) (.concluded answer) →
        (answer = .ok value ∨ ∃ f, CommitFails xs f ∧ answer = .error (.transaction f)) ∧
        ∀ f, CommitFails xs f → answer = .error (.transaction f)
  /-- Operators are told of a failure once, and of nothing else. -/
  reported : ∀ result xs answer, Concluding r timeout operation (T.own i) result xs →
    c.Finished i (.request r timeout operation) (.concluded answer) → reports (T.own i) = told answer
  /-- Where only watchdogs may interfere, the answer is a value exactly if the database has committed, and
      then it is never rolled back. -/
  watched : OnlyWatched c i → ∀ answer, c.Finished i (.request r timeout operation) (.concluded answer) →
    ((∃ value, answer = .ok value) ↔
      ∃ j before after, (j, ⟨.backend .commit, .ok (), before, after⟩) ∈ T) ∧
    ((∃ value, answer = .ok value) → ∀ j x, (j, x) ∈ T → x.effect ≠ .backend .rollback)
  /-- And nothing at all happens to a transaction that could not be opened. -/
  untouched : OnlyWatched c i → ∀ f before after, (i, ⟨.begin, .error f, before, after⟩) ∈ T →
    T = [(i, ⟨.begin, .error f, before, after⟩)]

/-! ### The request itself -/

section Own

variable {σ : Type} {r : Request} {timeout : Span} {operation : Program (Except ServiceFailure α)}
  {own xs : List (Exchange σ)} {result : Except ServiceFailure α} {p : Program (Verdict α)}

/-- What a request has been answered once it is done: the transaction could not be opened; or it was, the
    operation has come to a result, and this was concluded. -/
theorem run_leads {v : Verdict α}
    (h : (Party.request r timeout operation).program.Leads own (.done v)) :
    (∃ f before after, own = [⟨.begin, .error f, before, after⟩] ∧
      v = .concluded (.error (.transaction (.notBegun f)))) ∨
    ∃ result xs answer, Concluding r timeout operation own result xs ∧ v = .concluded answer ∧
      Concluded xs result answer := by
  obtain ⟨ys, zs, answer, rfl, hrun, hend⟩ := Program.leads_bind_done.1 h
  obtain ⟨rfl, hv⟩ := Program.leads_done.1 hend
  cases hv
  obtain ⟨opening, rest, begun, rfl, hstart, hrest⟩ := Program.leads_bind_done.1 hrun
  rcases begun with f | ⟨⟩
  · obtain ⟨rfl, hanswer⟩ := Program.leads_done.1 hrest
    cases hanswer
    rcases Transaction.start_leads hstart with ⟨f', before, after, rfl, hf⟩ | ⟨_, _, _, _, _, _, _, _, hf⟩
    · cases hf
      exact .inl ⟨f', before, after, rfl, rfl⟩
    · cases hf
  · obtain ⟨ys, xs, result, rfl, hoperation, hconclude⟩ := Program.leads_bind_done.1 hrest
    refine .inr ⟨result, xs, answer, ⟨opening, ys, ?_, hstart, hoperation⟩, rfl,
      Transaction.conclude_leads hconclude⟩
    rw [List.append_nil, List.append_assoc]

/-- Behind the result of its operation, a request is concluding it. -/
theorem Concluding.leads (h : Concluding r timeout operation own result xs)
    (hown : (Party.request r timeout operation).program.Leads own p) :
    ((Transaction.conclude r result).bind fun answer => .done (.concluded answer)).Leads xs p := by
  obtain ⟨opening, ys, rfl, hstart, hoperation⟩ := h
  change (((Transaction.start r timeout).bind _).bind _).Leads _ p at hown
  rw [Program.bind_assoc, List.append_assoc] at hown
  have hrest := Program.leads_bind_of_leads hstart hown
  rw [Program.bind_eq, Program.bind_assoc] at hrest
  have hconclude := Program.leads_bind_of_leads hoperation hrest
  exact hconclude

/-- A request that is concluding and is done has concluded the result. -/
theorem Concluding.concluded (h : Concluding r timeout operation own result xs)
    {answer : Except ServiceFailure α}
    (hown : (Party.request r timeout operation).program.Leads own (.done (.concluded answer))) :
    Concluded xs result answer := by
  obtain ⟨ys, zs, answer', rfl, hconclude, hend⟩ := Program.leads_bind_done.1 (h.leads hown)
  obtain ⟨rfl, hanswer⟩ := Program.leads_done.1 hend
  cases hanswer
  rw [List.append_nil]
  exact Transaction.conclude_leads hconclude

/-- Up to its conclusion, a request neither commits nor rolls back, and reports nothing. -/
theorem Concluding.quiet (h : Concluding r timeout operation own result xs)
    (inside : operation.Asks Effect.Inside) :
    ∃ zs, own = zs ++ xs ∧ reports zs = [] ∧ ∀ x ∈ zs, ∀ ending : Ending,
      x.effect ≠ .backend ending.operation := by
  obtain ⟨opening, ys, rfl, hstart, hoperation⟩ := h
  have hasks : ∀ x ∈ opening ++ ys, Transaction.Opening x.effect ∨ x.effect.Inside := by
    intro x hx
    exact (List.mem_append.1 hx).imp ((Transaction.start_asks r timeout).of_leads hstart x)
      (inside.of_leads hoperation x)
  refine ⟨opening ++ ys, rfl, ?_, ?_⟩
  · -- operators are told of events only
    refine Transaction.reports_eq_nil fun x hx r' text heffect => ?_
    have hx := hasks x hx
    rw [heffect] at hx
    rcases hx with hopening | ⟨_, _, _, hevent⟩
    · exact hopening
    · cases hevent
  · -- the database is only probed
    intro x hx ending heffect
    have hx := hasks x hx
    rw [heffect] at hx
    rcases hx with hopening | hprobe
    · exact hopening
    · cases ending <;> cases hprobe

/-- **A request ends its transaction only as its result calls for**: it never asks for the other
    operation. -/
theorem Concluding.never_calls (ending : Ending) (h : Concluding r timeout operation own result xs)
    (inside : operation.Asks Effect.Inside)
    (hown : (Party.request r timeout operation).program.Leads own p)
    (other : ending.operation ≠ Transaction.operationFor result) :
    ∀ x ∈ own, x.effect ≠ .backend ending.operation := by
  obtain ⟨zs, rfl, -, hquiet⟩ := h.quiet inside
  have hasks : ∀ x ∈ xs, x.effect ≠ .backend ending.operation := by
    refine Program.Asks.of_leads (P := (· ≠ .backend ending.operation)) ?_ (h.leads hown)
    exact (Transaction.conclude_never other).bind fun _ => trivial
  intro x hx
  rcases List.mem_append.1 hx with hx | hx
  · exact hquiet x hx ending
  · exact hasks x hx

/-- A request that could not open its transaction has asked nothing else, and is done. -/
theorem alone_of_notBegun {f : RepositoryFailure} {before after : σ} (inside : operation.Asks Effect.Inside)
    (hown : (Party.request r timeout operation).program.Leads own p)
    (hmem : ⟨.begin, .error f, before, after⟩ ∈ own) :
    own = [⟨.begin, .error f, before, after⟩] ∧
      p = .done (.concluded (.error (.transaction (.notBegun f)))) := by
  cases own with
  | nil => cases hmem
  | cons y ys =>
    obtain ⟨begun, before', after', rfl, hrest⟩ := hown
    rcases begun with f' | ⟨⟩
    · obtain ⟨rfl, rfl⟩ := Program.leads_done.1 hrest
      cases List.mem_singleton.1 hmem
      exact ⟨rfl, rfl⟩
    · -- it has been opened, and is not opened again
      have hasks := Program.Asks.of_leads (P := (· ≠ .begin)) ?_ hrest
      · rcases List.mem_cons.1 hmem with hmem | hmem
        · cases hmem
        · exact absurd rfl (hasks _ hmem)
      · refine ⟨nofun, fun _ => ⟨nofun, fun _ => ?_⟩⟩
        have hinside : operation.Asks (· ≠ .begin) := inside.mono fun e he hbegin => by
          subst hbegin
          exact he
        exact (hinside.bind fun _ => Transaction.conclude_never_begins r _).bind fun _ => trivial

end Own

/-! ### The life cycle -/

section Lifecycle

variable {T T₁ T₂ : Trace (Option TransactionState)}
  {c : Crowd (Option TransactionState) (Party α) (Verdict α)} {i j : Nat}
  {x y : Exchange (Option TransactionState)}

/-- The transaction has ended. -/
def Ended (t : Option TransactionState) : Prop := ∃ s, t = some s ∧ s.isOpen = false

/-- An exchange that is a claim and is granted. -/
def Grants (x : Exchange (Option TransactionState)) : Prop :=
  ∃ ending operation before after, x = ⟨.claim ending operation, .ok (), before, after⟩

theorem grantedIn_own : GrantedIn (T.own i) ↔ ∃ x, (i, x) ∈ T ∧ Grants x := by
  constructor
  · rintro ⟨ending, operation, before, after, hmem⟩
    exact ⟨_, Trace.mem_own.1 hmem, ending, operation, before, after, rfl⟩
  · rintro ⟨_, hmem, ending, operation, before, after, rfl⟩
    exact ⟨ending, operation, before, after, Trace.mem_own.2 hmem⟩

/-- A claim that is granted finds the transaction open and ends it. -/
theorem ended_of_grants (hx : (requests α).Answers x) (grants : Grants x) :
    ¬ Ended x.before ∧ Ended x.after := by
  obtain ⟨ending, operation, before, after, rfl⟩ := grants
  obtain ⟨s, s', hbefore, ⟨now, hclaim⟩, hafter⟩ := hx
  obtain ⟨lifecycle, time⟩ := s
  cases lifecycle with
  | isOpen =>
    obtain ⟨-, rfl⟩ := Prod.mk.inj hclaim
    refine ⟨?_, _, hafter, rfl⟩
    rintro ⟨s, hs, hended⟩
    cases hbefore.symm.trans hs
    cases hended
  | ended earlier => cases (Prod.mk.inj hclaim).1

/-- What has ended stays so. -/
theorem ended_of_answers (hx : (requests α).Answers x) (ended : Ended x.before) : Ended x.after := by
  obtain ⟨s, hs, hended⟩ := ended
  obtain ⟨e, answer, before, after⟩ := x
  obtain rfl : before = some s := hs
  cases e with
  | arm r timeout => cases hx.1
  | claim ending operation =>
    obtain ⟨s₁, s', hbefore, ⟨now, hclaim⟩, rfl⟩ := hx
    cases hbefore
    obtain ⟨lifecycle, time⟩ := s
    cases lifecycle with
    | isOpen => cases hended
    | ended earlier =>
      obtain ⟨-, rfl⟩ := Prod.mk.inj hclaim
      exact ⟨_, rfl, rfl⟩
  | _ =>
    obtain rfl : after = some s := hx
    exact ⟨s, rfl, hended⟩

/-- Behind a claim that was granted, no other is. -/
theorem not_grants_behind (run : (requests α).Run ⟨none, []⟩ (T₁ ++ (i, x) :: T₂) c) (grants : Grants x)
    (hy : (j, y) ∈ T₂) : ¬ Grants y := by
  obtain ⟨a, run₁, hrest⟩ := run.parts rfl
  obtain ⟨b, hsingle, run₂⟩ := hrest.parts (List.append_cons [] (i, x) T₂)
  obtain ⟨-, answers, hafter⟩ := hsingle.shared_of_single
  have hended : Ended b.shared := hafter ▸ (ended_of_grants answers grants).2
  have hbefore := (run₂.invariant_of_mem hended (fun _ => ended_of_answers) hy).1
  exact fun hgrants => (ended_of_grants (run₂.answers_of_mem hy) hgrants).1 hbefore

/-- **At most one claim is granted.** -/
theorem granted_unique (run : (requests α).Run ⟨none, []⟩ T c) (hi : GrantedIn (T.own i))
    (hj : GrantedIn (T.own j)) : i = j := by
  obtain ⟨x, hx, hgrantsX⟩ := grantedIn_own.1 hi
  obtain ⟨y, hy, hgrantsY⟩ := grantedIn_own.1 hj
  obtain ⟨T₁, T₂, rfl⟩ := List.append_of_mem hx
  -- the other claim is in front of this one, or it is this one, or it is behind it
  rcases List.mem_append.1 hy with hy | hy
  · obtain ⟨U₁, U₂, rfl⟩ := List.append_of_mem hy
    rw [List.append_assoc, List.cons_append] at run
    exact absurd hgrantsX (not_grants_behind run hgrantsY (j := i) (by simp))
  · rcases List.mem_cons.1 hy with hy | hy
    · exact (Prod.mk.inj hy).1.symm
    · exact absurd hgrantsY (not_grants_behind run hgrantsX hy)

/-- There is a life cycle only once the watchdog has been started. -/
theorem armed_of_shared (run : (requests α).Run ⟨none, []⟩ T c) (h : c.shared ≠ none) :
    ∃ i r timeout before after, (i, ⟨.arm r timeout, (), before, after⟩) ∈ T := by
  induction run with
  | start => exact absurd rfl h
  | launch _ _ ih => exact ih h
  | @step T c k job x next run task now answers ih =>
    by_cases hbefore : c.shared = none
    · -- only starting the watchdog brings it about
      obtain ⟨e, answer, before, after⟩ := x
      obtain rfl : before = c.shared := now
      cases e with
      | arm r timeout => exact ⟨k, r, timeout, c.shared, after, by simp⟩
      | claim ending operation =>
        obtain ⟨s, _, hsome, -⟩ := answers
        cases hbefore.symm.trans hsome
      | _ => exact absurd (Eq.trans answers hbefore) h
    · obtain ⟨i, r, timeout, before, after, hmem⟩ := ih hbefore
      exact ⟨i, r, timeout, before, after, List.mem_append_left _ hmem⟩

end Lifecycle

/-! ### Watchdogs -/

section Watchdog

variable {T : Trace (Option TransactionState)}
  {c : Crowd (Option TransactionState) (Party α) (Verdict α)} {i j : Nat} {r : Request} {timeout : Span}
  {x : Exchange (Option TransactionState)}

/-- The watch over a watchdog: it claims the end, and everything else comes behind a claim that was granted.
    Of the database it only ever asks for a rollback. -/
def watchdog : Watch (Option TransactionState) (List (Exchange (Option TransactionState))) :=
  .history fun past x => match x.effect with
    | .claim .. => True
    | .backend operation => operation = .rollback ∧ GrantedIn past
    | .disarm | .alert .. | .log _ => GrantedIn past
    | _ => False

theorem expire_passes (r : Request) (timeout : Span) :
    (Transaction.expire r timeout).Passes watchdog (fun _ _ => True) [] := by
  simp only [Transaction.expire, Transaction.finish, Program.perform, Program.bind_eq, Program.ask_bind,
    Program.done_bind]
  intro claim before after
  refine ⟨trivial, ?_⟩
  rcases claim with f | ⟨⟩
  · exact trivial
  · -- the watchdog is stopped, the alarm is raised, and the database is called
    have hgranted (past : List (Exchange (Option TransactionState))) (ending : Ending)
        (operation : Operation) : GrantedIn (⟨.claim ending operation, .ok (), before, after⟩ :: past) :=
      ⟨ending, operation, before, after, List.mem_cons_self⟩
    intro _ _ _
    refine ⟨hgranted _ _ _, ?_⟩
    intro _ _ _
    refine ⟨hgranted _ _ _, ?_⟩
    intro answer _ _
    refine ⟨⟨rfl, hgranted _ _ _⟩, ?_⟩
    rcases answer with f | ⟨⟩
    · intro _ _ _
      exact ⟨hgranted _ _ _, trivial⟩
    · exact trivial

/-- What a watchdog asks in a run. -/
theorem watchdog_of_mem (run : (requests α).Run ⟨none, []⟩ T c)
    (hj : c.job? j = some (.closing (.expire r timeout))) (hx : (j, x) ∈ T) :
    ∃ before after, T = before ++ (j, x) :: after ∧ watchdog.demands (before.own j) x := by
  have hpasses : ((requests α).program (.closing (.expire r timeout))).Passes watchdog
      (fun _ _ => True) [] := by
    show ((Transaction.expire r timeout).bind _).Passes _ _ _
    rw [Program.passes_bind]
    exact (expire_passes r timeout).mono fun _ _ _ => trivial
  obtain ⟨before, after, hT, hdemands⟩ := run.demands hj hpasses hx
  rw [watchdog, Trace.noted_history] at hdemands
  exact ⟨before, after, hT, hdemands⟩

/-- A watchdog that calls the database rolls back, and was granted its claim. -/
theorem watchdog_backend (run : (requests α).Run ⟨none, []⟩ T c)
    (hj : c.job? j = some (.closing (.expire r timeout))) (hx : (j, x) ∈ T) {operation : Operation}
    (hcall : x.effect = .backend operation) : operation = .rollback ∧ GrantedIn (T.own j) := by
  obtain ⟨T₁, T₂, rfl, hdemands⟩ := watchdog_of_mem run hj hx
  obtain ⟨e, answer, before, after⟩ := x
  obtain rfl : e = .backend operation := hcall
  obtain ⟨hrollback, ending, operation', before', after', hmem⟩ := hdemands
  refine ⟨hrollback, ending, operation', before', after', ?_⟩
  exact Trace.mem_own.2 (List.mem_append_left _ (Trace.mem_own.1 hmem))

/-- A watchdog has done something only if the watchdog was started, and that is not for itself to do. -/
theorem armed_of_watchdog (run : (requests α).Run ⟨none, []⟩ T c)
    (hj : c.job? j = some (.closing (.expire r timeout))) (hx : (j, x) ∈ T) :
    ∃ k r' timeout' before after, (k, ⟨.arm r' timeout', (), before, after⟩) ∈ T := by
  -- whatever it has done, it has claimed the end, and there was a life cycle to be claimed
  have hclaim : ∃ ending operation answer before after,
      (j, ⟨.claim ending operation, answer, before, after⟩) ∈ T := by
    obtain ⟨T₁, T₂, rfl, hdemands⟩ := watchdog_of_mem run hj hx
    have hgranted (h : GrantedIn (T₁.own j)) : ∃ ending operation answer before after,
        (j, ⟨.claim ending operation, answer, before, after⟩) ∈ T₁ ++ (j, x) :: T₂ := by
      obtain ⟨ending, operation, before, after, hmem⟩ := h
      exact ⟨ending, operation, .ok (), before, after,
        List.mem_append_left _ (Trace.mem_own.1 hmem)⟩
    obtain ⟨e, answer, before, after⟩ := x
    cases e with
    | claim ending operation => exact ⟨ending, operation, answer, before, after, hx⟩
    | backend operation => exact hgranted hdemands.2
    | disarm | alert | log => exact hgranted hdemands
    | _ => exact hdemands.elim
  obtain ⟨ending, operation, answer, before, after, hclaim⟩ := hclaim
  obtain ⟨T₁, T₂, b, rfl, hfirst, hbefore, -⟩ := run.cut hclaim
  obtain ⟨s, s', hsome, -⟩ := run.answers_of_mem hclaim
  obtain ⟨k, r', timeout', before', after', hmem⟩ := armed_of_shared hfirst (by
    rw [hbefore]
    exact fun hnone => nomatch hsome.symm.trans hnone)
  exact ⟨k, r', timeout', before', after', List.mem_append_left _ hmem⟩

end Watchdog

/-! ### The answer -/

section Answer

variable {T : Trace (Option TransactionState)}
  {c : Crowd (Option TransactionState) (Party α) (Verdict α)} {i j : Nat} {r : Request} {timeout : Span}
  {operation : Program (Except ServiceFailure α)} {x : Exchange (Option TransactionState)}

/-- Only one task has ever done anything. -/
theorem Trace.eq_own_of_forall {T : Trace (Option TransactionState)} (h : ∀ j x, (j, x) ∈ T → j = i) :
    T = (T.own i).map (i, ·) := by
  induction T with
  | nil => rfl
  | cons step T ih =>
    obtain ⟨j, x⟩ := step
    obtain rfl := h j x List.mem_cons_self
    have htail := ih fun k y hy => h k y (List.mem_cons_of_mem _ hy)
    simpa [Trace.own] using htail

/-- Nobody but the request does anything to a transaction that could not be opened. -/
theorem OnlyWatched.alone (watched : OnlyWatched c i) (run : (requests α).Run ⟨none, []⟩ T c)
    (hown : ∀ r timeout before after, ⟨.arm r timeout, (), before, after⟩ ∉ T.own i) (hx : (j, x) ∈ T) :
    j = i := by
  by_contra hj
  obtain ⟨-, -, -, k, -, -, -, -, hk⟩ := run.job_of_mem hx
  obtain ⟨r, timeout, rfl⟩ := watched j k hj hk
  obtain ⟨l, r', timeout', before, after, harm⟩ := armed_of_watchdog run hk hx
  by_cases hl : l = i
  · subst hl
    exact hown _ _ _ _ (Trace.mem_own.2 harm)
  · -- a watchdog does not start watchdogs
    obtain ⟨-, -, -, k, -, -, -, -, hk⟩ := run.job_of_mem harm
    obtain ⟨r, timeout, rfl⟩ := watched l k hl hk
    obtain ⟨_, _, _, hdemands⟩ := watchdog_of_mem run hk harm
    exact hdemands

/-- A call of the database by anybody else is a rollback whose claim was granted. -/
theorem OnlyWatched.backend (watched : OnlyWatched c i) (run : (requests α).Run ⟨none, []⟩ T c)
    (hj : j ≠ i) (hx : (j, x) ∈ T) {call : Operation} (hcall : x.effect = .backend call) :
    call = .rollback ∧ GrantedIn (T.own j) := by
  obtain ⟨-, -, -, k, -, -, -, -, hk⟩ := run.job_of_mem hx
  obtain ⟨r, timeout, rfl⟩ := watched j k hj hk
  exact watchdog_backend run hk hx hcall

section Watched

variable {xs : List (Exchange (Option TransactionState))} {result answer : Except ServiceFailure α}
  {p : Program (Verdict α)} (watched : OnlyWatched c i) (run : (requests α).Run ⟨none, []⟩ T c)
  (inside : operation.Asks Effect.Inside)
  (hown : (Party.request r timeout operation).program.Leads (T.own i) p)

include watched run inside hown

/-- Nothing at all happens to a transaction that could not be opened. -/
theorem OnlyWatched.untouched {f : RepositoryFailure} {before after : Option TransactionState}
    (hmem : (i, ⟨.begin, .error f, before, after⟩) ∈ T) : T = [(i, ⟨.begin, .error f, before, after⟩)] := by
  have hbegin := (alone_of_notBegun inside hown (Trace.mem_own.2 hmem)).1
  have halone : T = (T.own i).map (i, ·) := Trace.eq_own_of_forall fun j x hx => by
    refine watched.alone run ?_ hx
    simp [hbegin]
  rw [hbegin] at halone
  exact halone

/-- The database has committed exactly if the answer is a value. -/
theorem OnlyWatched.commits_iff (h : Concluding r timeout operation (T.own i) result xs)
    (hconcluded : Concluded xs result answer) : (∃ value, answer = .ok value) ↔
      ∃ j before after, (j, ⟨.backend .commit, .ok (), before, after⟩) ∈ T := by
  obtain ⟨zs, hxs, -, hquiet⟩ := h.quiet inside
  constructor
  · rintro ⟨value, rfl⟩
    cases hconcluded with
    | committed _ granted committed =>
      obtain ⟨before, after, hmem⟩ := committed
      exact ⟨i, before, after, Trace.mem_own.1 (hxs ▸ List.mem_append_right zs hmem)⟩
  · rintro ⟨j, before, after, hmem⟩
    by_cases hj : j = i
    · subst hj
      have hcommit := Trace.mem_own.2 hmem
      cases hconcluded with
      | committed value => exact ⟨value, rfl⟩
      | notCommitted value f fails uncommitted =>
        rw [hxs] at hcommit
        rcases List.mem_append.1 hcommit with hcommit | hcommit
        · exact absurd rfl (hquiet _ hcommit .committed)
        · exact absurd ⟨before, after, hcommit⟩ uncommitted
      | rejected | failed => exact absurd rfl (h.never_calls .committed inside hown nofun _ hcommit)
    · cases (watched.backend run hj hmem rfl).1

/-- Where the answer is a value, nobody has asked for a rollback. -/
theorem OnlyWatched.never_rollsBack {value : α} (h : Concluding r timeout operation (T.own i) result xs)
    (hconcluded : Concluded xs result (.ok value)) (hx : (j, x) ∈ T) : x.effect ≠ .backend .rollback := by
  intro hrollback
  obtain ⟨zs, hxs, -, -⟩ := h.quiet inside
  cases hconcluded with
  | committed _ granted =>
    by_cases hj : j = i
    · subst hj
      exact h.never_calls (.rolledBack none) inside hown nofun x (Trace.mem_own.2 hx) hrollback
    · -- two claims would have been granted
      obtain ⟨ending, claimed, before, after, hmem⟩ := granted
      have hgranted : GrantedIn (T.own i) :=
        ⟨ending, claimed, before, after, hxs ▸ List.mem_append_right zs hmem⟩
      exact hj (granted_unique run (watched.backend run hj hx hrollback).2 hgranted)

end Watched

/-- A request agrees with the database, however far it has come. -/
theorem agrees_of_task {p : Program (Verdict α)} (run : (requests α).Run ⟨none, []⟩ T c)
    (htask : c.tasks[i]? = some ⟨.request r timeout operation, p⟩) (inside : operation.Asks Effect.Inside) :
    Agrees T c i r timeout operation := by
  have hown : (Party.request r timeout operation).program.Leads (T.own i) p := run.leads htask
  have hdone {v : Verdict α} (finished : c.Finished i (.request r timeout operation) v) :
      (Party.request r timeout operation).program.Leads (T.own i) (.done v) := run.leads finished
  exact {
    notBegun := by
      intro f before after hmem
      obtain ⟨honly, rfl⟩ := alone_of_notBegun inside hown (Trace.mem_own.2 hmem)
      exact ⟨honly, htask⟩
    through := by
      intro v finished
      rcases run_leads (hdone finished) with ⟨f, before, after, hbegin, -⟩ |
        ⟨result, xs, answer, h, rfl, -⟩
      · exact .inl ⟨f, before, after, Trace.mem_own.1 (hbegin ▸ List.mem_cons_self)⟩
      · exact .inr ⟨result, xs, answer, h, rfl⟩
    success := by
      intro result xs answer value h finished
      cases h.concluded (hdone finished) with
      | committed stored granted committed => simp [granted, committed, eq_comm]
      | notCommitted stored f fails uncommitted => simp [uncommitted]
      | rejected | failed => simp
    failure := by
      intro f xs h
      refine ⟨h.never_calls .committed inside hown nofun, fun answer finished => ?_⟩
      cases h.concluded (hdone finished) with
      | rejected | failed => rfl
    rolledBack := by
      intro f xs answer h finished
      cases h.concluded (hdone finished) with
      | rejected _ ended | failed _ ended => exact ended
    refused := by
      intro value xs h
      refine ⟨h.never_calls (.rolledBack none) inside hown nofun, fun answer finished => ?_⟩
      cases h.concluded (hdone finished) with
      | committed _ _ _ sound => exact ⟨.inl rfl, fun f hf => absurd hf (sound f)⟩
      | notCommitted _ f fails =>
        refine ⟨.inr ⟨f, (fails f).2 rfl, rfl⟩, fun g hg => ?_⟩
        rw [(fails g).1 hg]
    reported := by
      intro result xs answer h finished
      obtain ⟨zs, hxs, hquiet, -⟩ := h.quiet inside
      rw [hxs, Transaction.reports_append, hquiet, List.nil_append]
      cases h.concluded (hdone finished) <;> assumption
    watched := by
      intro watched answer finished
      rcases run_leads (hdone finished) with ⟨f, before, after, hbegin, hanswer⟩ |
        ⟨result, xs, _, h, hanswer, hconcluded⟩
      · -- the transaction could not be opened: nothing happens to it
        cases hanswer
        have hT := watched.untouched run inside hown (Trace.mem_own.1 (hbegin ▸ List.mem_cons_self))
        simp [hT]
      · cases hanswer
        refine ⟨watched.commits_iff run inside hown h hconcluded, ?_⟩
        rintro ⟨value, rfl⟩ j x hx
        exact watched.never_rollsBack run inside hown h hconcluded hx
    untouched := fun watched _ _ _ hmem => watched.untouched run inside hown hmem }

/-- **The answer of a request agrees with what the database has done**, for every operation that works
    inside the transaction, every answer of the database and of whoever tells operators, and every
    watchdog. -/
theorem request_agrees (run : (requests α).Run ⟨none, []⟩ T c)
    (hi : c.job? i = some (.request r timeout operation)) (inside : operation.Asks Effect.Inside) :
    Agrees T c i r timeout operation := by
  obtain ⟨⟨job, p⟩, htask, hjob⟩ := Option.map_eq_some_iff.1 hi
  obtain rfl : job = .request r timeout operation := hjob
  exact agrees_of_task run htask inside

/-- A health check whose probe was answered, but whose commit is overtaken by the watchdog. -/
theorem request_agrees_overtaken :
    ∃ (T : Trace (Option TransactionState))
      (c : Crowd (Option TransactionState) (Party Unit) (Verdict Unit)), (requests Unit).Run ⟨none, []⟩ T c ∧
      Agrees T c 0 (.new "r" .epoch) (.ofSeconds 30) Transaction.probe ∧
      c.Finished 0 (.request (.new "r" .epoch) (.ofSeconds 30) Transaction.probe) (.concluded (.error
        (.transaction (.alreadyEnded .commit (some (.transaction (.timeout (.ofSeconds 30)))))))) := by
  have opened : (requests Unit).Run ⟨none, []⟩ [] ⟨none, []⟩ := .start
  have launched := opened.launch (.request (.new "r" .epoch) (.ofSeconds 30) Transaction.probe)
  have begun := launched.step (i := 0) ⟨.begin, .ok (), _, _⟩ rfl rfl rfl
  have logged := begun.step (i := 0) ⟨.log _, (), _, _⟩ rfl rfl rfl
  have armed := logged.step (i := 0) ⟨.arm _ _, (), _, some .new⟩ rfl rfl ⟨rfl, rfl⟩
  have probed := armed.step (i := 0) ⟨.backend .ping, .ok (), _, _⟩ rfl rfl rfl
  -- the deadline comes before the commit
  have expired := probed.launch (.closing (.expire (.new "r" .epoch) (.ofSeconds 30)))
  have claimed := expired.step (i := 1)
    ⟨.claim (.rolledBack (some (.transaction (.timeout (.ofSeconds 30))))) .rollback, .ok (), _, _⟩
    rfl rfl ⟨.new, _, rfl, ⟨.epoch, rfl⟩, rfl⟩
  have refused := claimed.step (i := 0)
    ⟨.claim .committed .commit, .error _, _, _⟩ rfl rfl ⟨_, _, rfl, ⟨.epoch, rfl⟩, rfl⟩
  have noted := refused.step (i := 0) ⟨.log _, (), _, _⟩ rfl rfl rfl
  have notified := noted.step (i := 0) ⟨.notify _, .ok (), _, _⟩ rfl rfl rfl
  exact ⟨_, _, notified, request_agrees notified rfl probe_inside, rfl⟩

end Answer

/-! ### Requests of the service -/

section Service

variable {T : Trace (Option TransactionState)} {i : Nat} {r : Request} {timeout : Span}

/-- **A health check** agrees with the database: it is a request for a probe (`program_healthCheck`). -/
theorem healthCheck_agrees {c : Crowd (Option TransactionState) (Party Unit) (Verdict Unit)}
    {p : Program (Verdict Unit)} (run : (requests Unit).Run ⟨none, []⟩ T c)
    (htask : c.tasks[i]? = some ⟨.request r timeout Transaction.probe, p⟩) :
    Agrees T c i r timeout Transaction.probe := agrees_of_task run htask probe_inside

/-- **A request for any operation of the service** agrees with the database. -/
theorem job_agrees {c : Crowd (Option TransactionState) (Party Value) (Verdict Value)}
    {p : Program (Verdict Value)} (h : Hasher) (job : Job) (run : (requests Value).Run ⟨none, []⟩ T c)
    (htask : c.tasks[i]? = some ⟨.request r timeout (job.program h r).run, p⟩) :
    Agrees T c i r timeout (job.program h r).run := agrees_of_task run htask (job_inside h r job).asks

end Service

end Turnstile
