import Turnstile.Proofs.Leads
import Turnstile.Transaction

namespace Turnstile.Transaction

/-!
# What a request has been answered

The programs of a request's transaction, each with the answers that lead it to its end.

* `close_leads`, `start_leads` and `report_leads` list the exchanges of the parts.
* `Concluded` says what the conclusion of a result comes back with, in terms of what it was answered:
  whether its claim was granted, what the database answered to a commit, and what operators were told. Behind
  a failure, it says which rollback was claimed and whether it was asked for (`RollsBack`). `conclude_leads`
  is the proof.
* `conclude_asks` holds at every point on the way: a failure is never committed, and a success is never
  rolled back.
-/

variable {σ α : Type}

/-! ### Exchanges of a transaction -/

/-- Some claim of the end was granted. -/
def GrantedIn (xs : List (Exchange σ)) : Prop :=
  ∃ ending operation before after, ⟨.claim ending operation, .ok (), before, after⟩ ∈ xs

/-- The database has committed. -/
def CommittedIn (xs : List (Exchange σ)) : Prop :=
  ∃ before after, ⟨.backend .commit, .ok (), before, after⟩ ∈ xs

/-- A commit was refused because the transaction had ended, or the database has failed to commit. -/
inductive CommitFails (xs : List (Exchange σ)) : TransactionFailure → Prop where
  | refused (f : TransactionFailure) (before after : σ)
      (claim : ⟨.claim .committed .commit, .error f, before, after⟩ ∈ xs) : CommitFails xs f
  | failed (f : RepositoryFailure) (before after : σ)
      (call : ⟨.backend .commit, .error f, before, after⟩ ∈ xs) : CommitFails xs (.backend .commit f)

/-- What has gone wrong stays so. -/
theorem CommitFails.append {f : TransactionFailure} (xs ys : List (Exchange σ)) (h : CommitFails xs f) :
    CommitFails (xs ++ ys) f := by
  cases h with
  | refused f before after claim => exact .refused f before after (List.mem_append_left _ claim)
  | failed f before after call => exact .failed f before after (List.mem_append_left _ call)

/-- A rollback was claimed for this cause, and nothing else was; and the database was asked for it exactly if
    the claim was granted. -/
structure RollsBack (xs : List (Exchange σ)) (cause : Option SystemFailure) : Prop where
  claimed : ∃ answer before after, ⟨.claim (.rolledBack cause) .rollback, answer, before, after⟩ ∈ xs
  only : ∀ x ∈ xs, ∀ ending operation, x.effect = .claim ending operation →
    ending = .rolledBack cause ∧ operation = .rollback
  called : GrantedIn xs ↔ ∃ answer before after, ⟨.backend .rollback, answer, before, after⟩ ∈ xs

/-- The failures that operators were told of. -/
def reports (xs : List (Exchange σ)) : List String :=
  xs.filterMap fun
    | ⟨.notify (.failure _ text), _, _, _⟩ => some text
    | _ => none

theorem reports_append (xs ys : List (Exchange σ)) : reports (xs ++ ys) = reports xs ++ reports ys :=
  List.filterMap_append

/-- Nobody is told of a failure by questions of another kind. -/
theorem reports_eq_nil {xs : List (Exchange σ)}
    (h : ∀ x ∈ xs, ∀ r text, x.effect ≠ .notify (.failure r text)) : reports xs = [] := by
  rw [reports, List.filterMap_eq_nil_iff]
  rintro ⟨e, answer, before, after⟩ hx
  have hne := h _ hx
  split
  · next heq =>
    cases heq
    exact absurd rfl (hne _ _)
  · rfl

/-! ### The parts -/

section Parts

variable {r : Request} {xs : List (Exchange σ)}

/-- **Ending a transaction**: the claim is refused; or it is granted, the watchdog is stopped, and the
    database is called. -/
theorem close_leads {ending : Ending} {operation : Operation} {result : Except TransactionFailure Unit}
    (h : (close ending operation).Leads xs (.done result)) :
    (∃ f before after, xs = [⟨.claim ending operation, .error f, before, after⟩] ∧ result = .error f) ∨
    ∃ answer b₁ a₁ b₂ a₂ b₃ a₃,
      xs = [⟨.claim ending operation, .ok (), b₁, a₁⟩, ⟨.disarm, (), b₂, a₂⟩,
        ⟨.backend operation, answer, b₃, a₃⟩] ∧
      result = answer.mapError (.backend operation) := by
  simp only [close, finish, backend, Program.perform, Program.bind_eq, Program.ask_bind,
    Program.done_bind] at h
  obtain ⟨claim, b₁, a₁, rest, rfl, h₁⟩ := Program.leads_ask_done.1 h
  rcases claim with f | ⟨⟩
  · obtain ⟨rfl, hresult⟩ := Program.leads_done.1 h₁
    cases hresult
    exact .inl ⟨f, b₁, a₁, rfl, rfl⟩
  · obtain ⟨_, b₂, a₂, rest, rfl, h₂⟩ := Program.leads_ask_done.1 h₁
    obtain ⟨answer, b₃, a₃, rest, rfl, h₃⟩ := Program.leads_ask_done.1 h₂
    refine .inr ⟨answer, b₁, a₁, b₂, a₂, b₃, a₃, ?_, ?_⟩
    all_goals rcases answer with f | ⟨⟩
    all_goals
      obtain ⟨rfl, hresult⟩ := Program.leads_done.1 h₃
      cases hresult
      rfl

/-- Opening a transaction: it is opened, there is an entry in the log, and the watchdog is started. -/
theorem start_leads {timeout : Span} {result : Except TransactionFailure Unit}
    (h : (start r timeout).Leads xs (.done result)) :
    (∃ f before after, xs = [⟨.begin, .error f, before, after⟩] ∧ result = .error (.notBegun f)) ∨
    ∃ entry b₁ a₁ b₂ a₂ b₃ a₃, xs = [⟨.begin, .ok (), b₁, a₁⟩, ⟨.log entry, (), b₂, a₂⟩,
      ⟨.arm r timeout, (), b₃, a₃⟩] ∧ result = .ok () := by
  simp only [start, Program.perform, Program.bind_eq, Program.ask_bind, Program.done_bind] at h
  obtain ⟨begun, b₁, a₁, rest, rfl, h₁⟩ := Program.leads_ask_done.1 h
  rcases begun with f | ⟨⟩
  · obtain ⟨rfl, hresult⟩ := Program.leads_done.1 h₁
    cases hresult
    exact .inl ⟨f, b₁, a₁, rfl, rfl⟩
  · obtain ⟨_, b₂, a₂, rest, rfl, h₂⟩ := Program.leads_ask_done.1 h₁
    obtain ⟨_, b₃, a₃, rest, rfl, h₃⟩ := Program.leads_ask_done.1 h₂
    obtain ⟨rfl, hresult⟩ := Program.leads_done.1 h₃
    cases hresult
    exact .inr ⟨_, b₁, a₁, b₂, a₂, b₃, a₃, rfl, rfl⟩

/-- The questions of the opening. -/
def Opening : Effect → Prop
  | .begin | .log _ | .arm .. => True
  | _ => False

theorem start_asks (r : Request) (timeout : Span) : (start r timeout).Asks Opening := by
  refine (Program.asks_perform (by exact trivial)).bind fun begun => ?_
  cases begun with
  | error f => exact trivial
  | ok =>
    refine (Program.asks_perform (by exact trivial)).bind fun _ => ?_
    exact (Program.asks_perform (by exact trivial)).bind fun _ => trivial

/-- The questions of a report. -/
def Reporting : Effect → Prop
  | .log _ | .notify _ => True
  | _ => False

theorem report_asks (r : Request) (f : SystemFailure) : (report r f).Asks Reporting := by
  refine (Program.asks_perform (by exact trivial)).bind fun _ => ?_
  refine (Program.asks_perform (by exact trivial)).bind fun delivery => ?_
  cases delivery with
  | error fault => exact Program.asks_perform (by exact trivial)
  | ok => exact trivial

/-- **A report** tells operators once, whether or not the notice can be delivered. -/
theorem report_leads {f : SystemFailure} (h : (report r f).Leads xs (.done ())) :
    reports xs = [f.chain] := by
  simp only [report, Program.perform, Program.bind_eq, Program.ask_bind, Program.done_bind] at h
  obtain ⟨_, b₁, a₁, rest, rfl, h₁⟩ := Program.leads_ask_done.1 h
  obtain ⟨delivery, b₂, a₂, rest, rfl, h₂⟩ := Program.leads_ask_done.1 h₁
  rcases delivery with fault | ⟨⟩
  · obtain ⟨_, b₃, a₃, rest, rfl, h₃⟩ := Program.leads_ask_done.1 h₂
    obtain ⟨rfl, -⟩ := Program.leads_done.1 h₃
    rfl
  · obtain ⟨rfl, -⟩ := Program.leads_done.1 h₂
    rfl

/-- Questions that go to the database but not for this operation, and to nobody with a failure. -/
def Ends (operation : Operation) : Effect → Prop
  | .claim .. | .disarm | .log _ => True
  | .backend other => other = operation
  | _ => False

theorem close_asks (ending : Ending) (operation : Operation) :
    (close ending operation).Asks (Ends operation) := by
  refine Program.Asks.bind ?_ fun result => ?_
  · refine (Program.asks_perform (by exact trivial)).bind fun claim => ?_
    cases claim with
    | error f => exact trivial
    | ok => exact (Program.asks_perform (by exact trivial)).bind fun _ => trivial
  · cases result with
    | error f => exact trivial
    | ok =>
      refine (Program.asks_perform (by exact rfl)).bind fun answer => ?_
      cases answer <;> exact trivial

theorem rollbackAfter_asks (r : Request) (warning : String) (cause : Option SystemFailure) :
    (rollbackAfter r warning cause).Asks (Ends .rollback) := by
  refine (close_asks _ _).bind fun result => ?_
  cases result with
  | error f => exact Program.asks_perform (by exact trivial)
  | ok => exact trivial

/-- Rolling back for a cause. -/
theorem rollback_leads {cause : Option SystemFailure} {result : Except TransactionFailure Unit}
    (h : (rollback cause).Leads xs (.done result)) : RollsBack xs cause := by
  rcases close_leads h with ⟨f, before, after, rfl, -⟩ | ⟨answer, b₁, a₁, b₂, a₂, b₃, a₃, rfl, -⟩
  · refine ⟨⟨_, _, _, List.mem_cons_self⟩, ?_, by simp [GrantedIn]⟩
    intro x hx ending operation heffect
    cases List.mem_singleton.1 hx
    cases heffect
    exact ⟨rfl, rfl⟩
  · refine ⟨⟨_, _, _, List.mem_cons_self⟩, ?_, by simp [GrantedIn]⟩
    intro x hx ending operation heffect
    simp only [List.mem_cons, List.not_mem_nil, or_false] at hx
    rcases hx with rfl | rfl | rfl
    · cases heffect
      exact ⟨rfl, rfl⟩
    · cases heffect
    · cases heffect

/-- Reports around exchanges add no claim and no call. -/
theorem mem_among_reports (ys zs : List (Exchange σ)) (hys : ∀ y ∈ ys, Reporting y.effect)
    (hzs : ∀ z ∈ zs, Reporting z.effect) {x : Exchange σ} (hx : ¬ Reporting x.effect) :
    x ∈ ys ++ xs ++ zs ↔ x ∈ xs := by
  rw [List.mem_append, List.mem_append]
  constructor
  · rintro ((hy | hmem) | hz)
    · exact absurd (hys x hy) hx
    · exact hmem
    · exact absurd (hzs x hz) hx
  · exact fun hmem => .inl (.inr hmem)

/-- Nor do reports behind them. -/
theorem mem_append_reports {zs : List (Exchange σ)} (hzs : ∀ z ∈ zs, Reporting z.effect)
    {x : Exchange σ} (hx : ¬ Reporting x.effect) : x ∈ xs ++ zs ↔ x ∈ xs :=
  mem_among_reports [] zs (fun _ hy => nomatch hy) hzs hx

/-- A rollback stays what it is among reports. -/
theorem RollsBack.among_reports {cause : Option SystemFailure} (h : RollsBack xs cause)
    (ys zs : List (Exchange σ)) (hys : ∀ y ∈ ys, Reporting y.effect) (hzs : ∀ z ∈ zs, Reporting z.effect) :
    RollsBack (ys ++ xs ++ zs) cause := by
  have hmem {x : Exchange σ} (hx : ¬ Reporting x.effect) : x ∈ ys ++ xs ++ zs ↔ x ∈ xs :=
    mem_among_reports ys zs hys hzs hx
  have hgranted : GrantedIn (ys ++ xs ++ zs) ↔ GrantedIn xs :=
    exists_congr fun _ => exists_congr fun _ => exists_congr fun _ => exists_congr fun _ => hmem id
  refine ⟨?_, ?_, ?_⟩
  · obtain ⟨answer, before, after, hclaim⟩ := h.claimed
    exact ⟨answer, before, after, (hmem id).2 hclaim⟩
  · intro x hx ending operation heffect
    refine h.only x ((hmem ?_).1 hx) ending operation heffect
    rw [heffect]
    exact id
  · rw [hgranted, h.called]
    exact exists_congr fun _ => exists_congr fun _ => exists_congr fun _ => (hmem id).symm

/-- Behind a failure, the rollback is claimed for this cause. -/
theorem rollbackAfter_leads {warning : String} {cause : Option SystemFailure}
    (h : (rollbackAfter r warning cause).Leads xs (.done ())) : RollsBack xs cause := by
  obtain ⟨ys, zs, result, rfl, hrollback, hrest⟩ := Program.leads_bind_done.1 h
  refine (rollback_leads hrollback).among_reports [] zs (fun _ hy => nomatch hy) ?_
  -- what follows is a warning in the log, if anything
  refine Program.Asks.of_leads ?_ hrest
  cases result with
  | error f => exact Program.asks_perform (by exact trivial)
  | ok => exact trivial

end Parts

/-! ### The conclusion -/

/-- What the conclusion of a result comes back with, behind these exchanges. -/
inductive Concluded (xs : List (Exchange σ)) :
    Except ServiceFailure α → Except ServiceFailure α → Prop where
  /-- The claim was granted and the database has committed: the value stands. -/
  | committed (value : α) (granted : GrantedIn xs) (committed : CommittedIn xs)
      (sound : ∀ f, ¬ CommitFails xs f) (quiet : reports xs = []) : Concluded xs (.ok value) (.ok value)
  /-- The commit was refused or has failed: operators are told, and this is the answer. -/
  | notCommitted (value : α) (f : TransactionFailure) (fails : ∀ g, CommitFails xs g ↔ g = f)
      (uncommitted : ¬ CommittedIn xs) (told : reports xs = [(SystemFailure.transaction f).chain]) :
      Concluded xs (.ok value) (.error (.transaction f))
  /-- A rejection stays what it is: it is rolled back without a cause, and nobody is told. -/
  | rejected (rejection : Rejection) (ended : RollsBack xs none) (quiet : reports xs = []) :
      Concluded xs (.error (.rejected rejection)) (.error (.rejected rejection))
  /-- A failure stays what it is: it is the cause of the rollback, and operators are told of it. -/
  | failed (f : SystemFailure) (ended : RollsBack xs (some f)) (told : reports xs = [f.chain]) :
      Concluded xs (.error (.system f)) (.error (.system f))

section Conclude

variable {r : Request} {xs : List (Exchange σ)}

/-- The operation that a result calls for. -/
def operationFor : Except ServiceFailure α → Operation
  | .ok _ => .commit
  | .error _ => .rollback

/-- A conclusion ends the transaction as the result calls for, and reports. -/
theorem conclude_asks (r : Request) (result : Except ServiceFailure α) :
    (conclude r result).Asks fun e => Ends (operationFor result) e ∨ Reporting e := by
  rcases result with (rejection | f) | value
  · exact ((rollbackAfter_asks _ _ _).mono fun _ => .inl).bind fun _ => trivial
  · refine ((report_asks r f).mono fun _ => .inr).bind fun _ => ?_
    exact ((rollbackAfter_asks _ _ _).mono fun _ => .inl).bind fun _ => trivial
  · refine ((close_asks _ _).mono fun _ => .inl).bind fun committed => ?_
    cases committed with
    | error f => exact ((report_asks r _).mono fun _ => .inr).bind fun _ => trivial
    | ok => exact trivial

/-- It never calls the database for anything else. -/
theorem conclude_never {operation : Operation} {result : Except ServiceFailure α}
    (h : operation ≠ operationFor result) : (conclude r result).Asks (· ≠ .backend operation) := by
  refine (conclude_asks r result).mono ?_
  rintro _ (hends | hreports) rfl
  · exact h hends
  · exact hreports

/-- It opens no transaction. -/
theorem conclude_never_begins (r : Request) (result : Except ServiceFailure α) :
    (conclude r result).Asks (· ≠ .begin) := by
  refine (conclude_asks r result).mono ?_
  rintro _ (hends | hreports) rfl
  · exact hends
  · exact hreports

/-- Rolling back tells operators nothing. -/
theorem reports_rollbackAfter {warning : String} {cause : Option SystemFailure} {q : Program Unit}
    (h : (rollbackAfter r warning cause).Leads xs q) : reports xs = [] := by
  refine reports_eq_nil fun x hx r text heffect => ?_
  have hends := (rollbackAfter_asks _ _ _).of_leads h x hx
  rw [heffect] at hends
  exact hends

/-- Ending a transaction tells operators nothing. -/
theorem reports_close {ending : Ending} {operation : Operation}
    {q : Program (Except TransactionFailure Unit)} (h : (close ending operation).Leads xs q) :
    reports xs = [] := by
  refine reports_eq_nil fun x hx r text heffect => ?_
  have hends := (close_asks _ _).of_leads h x hx
  rw [heffect] at hends
  exact hends

/-- Who hears that the commit was done has had its claim granted and the database committed. -/
theorem commit_succeeds (h : commit.Leads xs (.done (.ok ()))) :
    GrantedIn xs ∧ CommittedIn xs ∧ ∀ f, ¬ CommitFails xs f := by
  rcases close_leads h with ⟨f, before, after, -, hresult⟩ | ⟨answer, b₁, a₁, b₂, a₂, b₃, a₃, rfl, hresult⟩
  · cases hresult
  · rcases answer with f | ⟨⟩
    · cases hresult
    · refine ⟨⟨_, _, b₁, a₁, List.mem_cons_self⟩, ⟨b₃, a₃, by simp⟩, fun f hf => ?_⟩
      cases hf with
      | refused f before after claim => simp at claim
      | failed f before after call => simp at call

/-- Who hears of a failure has been refused, or the database has failed, and nothing is committed. -/
theorem commit_fails {f : TransactionFailure} (h : commit.Leads xs (.done (.error f))) :
    (∀ g, CommitFails xs g ↔ g = f) ∧ ¬ CommittedIn xs := by
  rcases close_leads h with ⟨f', before, after, rfl, hresult⟩ |
    ⟨answer, b₁, a₁, b₂, a₂, b₃, a₃, rfl, hresult⟩
  · cases hresult
    refine ⟨fun g => ⟨fun hg => ?_, ?_⟩, by simp [CommittedIn]⟩
    · cases hg with
      | refused g before after claim =>
        cases List.mem_singleton.1 claim
        rfl
      | failed g before after call => simp at call
    · rintro rfl
      exact .refused _ before after List.mem_cons_self
  · rcases answer with f' | ⟨⟩
    · cases hresult
      refine ⟨fun g => ⟨fun hg => ?_, ?_⟩, by simp [CommittedIn]⟩
      · cases hg with
        | refused g before after claim => simp at claim
        | failed g before after call =>
          simp only [List.mem_cons, List.not_mem_nil, or_false] at call
          rcases call with call | call | call <;> cases call
          rfl
      · rintro rfl
        exact .failed f' b₃ a₃ (by simp)
    · cases hresult

/-- A report does not change what has failed. -/
theorem commitFails_report {f : SystemFailure} {g : TransactionFailure} {q : Program Unit}
    {ys : List (Exchange σ)} (h : (report r f).Leads ys q) :
    CommitFails (xs ++ ys) g ↔ CommitFails xs g := by
  have hreports := (report_asks r f).of_leads h
  refine ⟨fun hg => ?_, CommitFails.append xs ys⟩
  cases hg with
  | refused g before after claim =>
    exact .refused g before after ((mem_append_reports hreports id).1 claim)
  | failed g before after call =>
    exact .failed g before after ((mem_append_reports hreports id).1 call)

/-- **What a conclusion comes back with.** -/
theorem conclude_leads {result answer : Except ServiceFailure α}
    (h : (conclude r result).Leads xs (.done answer)) : Concluded xs result answer := by
  rcases result with (rejection | f) | value
  · -- a rejection: the rollback, and nothing else
    obtain ⟨ys, zs, _, rfl, hrollback, hend⟩ := Program.leads_bind_done.1 h
    obtain ⟨rfl, hanswer⟩ := Program.leads_done.1 hend
    cases hanswer
    rw [List.append_nil]
    exact .rejected rejection (rollbackAfter_leads hrollback) (reports_rollbackAfter hrollback)
  · -- a failure: the report, and then the rollback
    obtain ⟨ys, _, _, rfl, hreport, hrest⟩ := Program.leads_bind_done.1 h
    obtain ⟨zs, ws, _, rfl, hrollback, hend⟩ := Program.leads_bind_done.1 hrest
    obtain ⟨rfl, hanswer⟩ := Program.leads_done.1 hend
    cases hanswer
    rw [List.append_nil]
    refine .failed f ?_ ?_
    · have hended := (rollbackAfter_leads hrollback).among_reports ys []
        ((report_asks r f).of_leads hreport) (fun _ hz => nomatch hz)
      rwa [List.append_nil] at hended
    · rw [reports_append, report_leads hreport, reports_rollbackAfter hrollback, List.append_nil]
  · -- a success: the commit, and then a report if it was refused or has failed
    obtain ⟨ys, zs, committed, rfl, hcommit, hrest⟩ := Program.leads_bind_done.1 h
    rcases committed with f | ⟨⟩
    · obtain ⟨zs, ws, _, rfl, hreport, hend⟩ := Program.leads_bind_done.1 hrest
      obtain ⟨rfl, hanswer⟩ := Program.leads_done.1 hend
      cases hanswer
      rw [List.append_nil]
      obtain ⟨fails, uncommitted⟩ := commit_fails hcommit
      refine .notCommitted value f (fun g => (commitFails_report hreport).trans (fails g)) ?_ ?_
      · rintro ⟨before, after, hmem⟩
        have hreports := (report_asks _ _).of_leads hreport
        exact uncommitted ⟨before, after, (mem_append_reports hreports id).1 hmem⟩
      · rw [reports_append, reports_close hcommit, report_leads hreport]
        rfl
    · obtain ⟨rfl, hanswer⟩ := Program.leads_done.1 hrest
      cases hanswer
      rw [List.append_nil]
      obtain ⟨granted, committed, sound⟩ := commit_succeeds hcommit
      exact .committed value granted committed sound (reports_close hcommit)

end Conclude

end Turnstile.Transaction
