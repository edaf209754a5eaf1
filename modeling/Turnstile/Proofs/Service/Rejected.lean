import Turnstile.Proofs.Accounts.StaleCopy
import Turnstile.Proofs.Service.Answered
import Turnstile.Proofs.Service.Questions

namespace Turnstile

open Credential (Hasher)

/-!
# Rejections leave no trace

A rejection is told to the caller as it is, and the caller may try again; nothing may have come of the
attempt, even before the transaction around it is rolled back.

* `Call` is a call of an operation on a store that it has to itself, from any store and with whatever answers
  the store or a failing connection gives. `call_of_runOn`: there is one for each store and all surroundings.
* `Service.Discreet` holds of operations that have not told operators anything whenever they come back with a
  rejection. A sign-up is one: it tells operators of a user only behind the insertion, and from there on
  nothing is rejected.
* `rejection_traceless`: whatever is rejected has left tables and counters alone at every step, and operators
  have not been told anything; lookups and verifications leave the store alone in any case.
-/

/-! ### Calls -/

/-- Each exchange goes on with the store that the one before it has left. -/
def Chained : Store → List (Exchange Store) → Store → Prop
  | s, [], s' => s' = s
  | s, x :: xs, s' => x.before = s ∧ Chained x.after xs s'

/-- A call of an operation: what it has exchanged with the store, what it has come back with, and the store
    behind it. -/
structure Call (h : Hasher) (r : Request) (job : Job) (s : Store) (xs : List (Exchange Store))
    (value : Except ServiceFailure Value) (s' : Store) : Prop where
  leads : ((service h).program (r, job)).Leads xs (.done value)
  chained : Chained s xs s'
  answers : ∀ x ∈ xs, (service h).Answers x

section Chained

variable {s s' : Store} {xs : List (Exchange Store)}

/-- If no exchange changes anything, nothing is changed. -/
theorem Chained.same (hxs : Chained s xs s') (same : ∀ x ∈ xs, x.after = x.before) :
    s' = s ∧ ∀ x ∈ xs, x.before = s ∧ x.after = s := by
  induction xs generalizing s with
  | nil => exact ⟨hxs, fun _ hx => nomatch hx⟩
  | cons x xs ih =>
    obtain ⟨rfl, hrest⟩ := hxs
    obtain ⟨hsame, hxs⟩ := same x List.mem_cons_self, fun y hy => same y (List.mem_cons_of_mem x hy)
    rw [hsame] at hrest
    obtain ⟨rfl, hall⟩ := ih hrest hxs
    refine ⟨rfl, fun y hy => ?_⟩
    rcases List.mem_cons.1 hy with rfl | hy
    · exact ⟨rfl, hsame⟩
    · exact hall y hy

/-- What a program does if nobody disturbs it, exchange by exchange. -/
theorem Program.exists_leads_runOn {α : Type} (o : Surroundings) (p : Program α) (s : Store) :
    ∃ xs, p.Leads xs (.done (p.runOn o s).1) ∧ Chained s xs (p.runOn o s).2 ∧
      ∀ x ∈ xs, x.Served := by
  induction p generalizing s with
  | done value => exact ⟨[], leads_nil.2 rfl, rfl, fun _ hx => nomatch hx⟩
  | ask e next ih =>
    obtain ⟨xs, hleads, hxs, hserved⟩ := ih (s.reply o e).1 (s.reply o e).2
    refine ⟨⟨e, (s.reply o e).1, s, (s.reply o e).2⟩ :: xs, ⟨_, _, _, rfl, hleads⟩, ⟨rfl, hxs⟩, ?_⟩
    intro x hx
    rcases List.mem_cons.1 hx with rfl | hx
    · exact s.reply_serves o e
    · exact hserved x hx

/-- An operation that nobody disturbs is a call. -/
theorem call_of_runOn (h : Hasher) (r : Request) (job : Job) (o : Surroundings) (s : Store) :
    ∃ xs, Call h r job s xs (((job.program h r).runOn o s).1) ((job.program h r).runOn o s).2 := by
  obtain ⟨xs, hleads, hxs, hserved⟩ := (job.program h r).run.exists_leads_runOn o s
  exact ⟨xs, hleads, hxs, fun x hx => .inl (hserved x hx)⟩

end Chained

/-! ### Discretion -/

/-- The question is not to tell operators anything. -/
def Effect.Silent (e : Effect) : Prop := ∀ notice, e ≠ .notify notice

theorem Effect.Plain.silent {e : Effect} (h : e.Plain) : e.Silent := by
  rintro notice rfl
  exact h

namespace Service

variable {α β : Type} {m : Service α} {f : α → Service β} {xs : List (Exchange Store)}

/-- Whenever the operation comes back with a rejection, it has not told operators anything. -/
structure Discreet (m : Service α) : Prop where
  silent : ∀ (xs : List (Exchange Store)) (r : Rejection),
    m.run.Leads xs (.done (.error (.rejected r))) → ∀ x ∈ xs, x.effect.Silent

theorem Asks.discreet (hm : m.Asks Effect.Silent) : m.Discreet :=
  ⟨fun _ _ hleads => hm.program.of_leads hleads⟩

/-- Who tells operators nothing may go on discreetly. -/
theorem Asks.bind_discreet (hm : m.Asks Effect.Silent) (hf : ∀ a, (f a).Discreet) :
    (m >>= f).Discreet := by
  refine ⟨fun xs r hleads => ?_⟩
  rcases leads_bind_error.1 hleads with hfailed | ⟨ys, zs, a, rfl, hdone, hfailed⟩
  · exact hm.program.of_leads hfailed
  · intro x hx
    rcases List.mem_append.1 hx with hx | hx
    · exact hm.program.of_leads hdone x hx
    · exact (hf a).silent zs r hfailed x hx

/-- What comes back may be dressed up. -/
theorem Discreet.map (hm : m.Discreet) (g : α → β) : (m >>= fun a => pure (g a)).Discreet := by
  refine ⟨fun xs r hleads => ?_⟩
  rcases leads_bind_error.1 hleads with hfailed | ⟨ys, zs, a, rfl, hdone, hfailed⟩
  · exact hm.silent xs r hfailed
  · cases (Program.leads_done.1 hfailed).2

end Service

section Discreet

variable {h : Hasher} {r : Request} {α : Type}

/-- What never comes back with a rejection has nothing to be discreet about. -/
theorem Acts.discreet (job : Job) {m : Service α} (hm : Acts job (fun _ => True) m) : m.Discreet := by
  refine ⟨fun xs rejection hleads => ?_⟩
  obtain ⟨-, hnot⟩ := (hm [] trivial).of_leads hleads
  exact absurd rfl (hnot rejection)

/-- A sign-up that is rejected has not told operators of anybody. -/
theorem Accounts.create_discreet (draft : Option UserDraft) :
    (Accounts.create h r draft).Discreet := by
  have plain (e : Effect) (he : e.Plain) : e.Silent := he.silent
  refine (Service.asks_orReject _ draft).bind_discreet fun d => ?_
  refine (Service.asks_checked (Accounts.check d)).bind_discreet fun fields => ?_
  refine (Accounts.takeNewEmail_asks plain fields).bind_discreet fun _ => ?_
  refine (Accounts.takePassword_asks plain _ fields _).bind_discreet fun u => ?_
  exact Acts.discreet (.signUp draft) (Accounts.acts_insert _)

/-- **Each operation is discreet.** Only a sign-up tells operators anything at all. -/
theorem job_discreet (job : Job) : (job.program h r).Discreet := by
  by_cases hsignUp : ∃ draft, job = .signUp draft
  · obtain ⟨draft, rfl⟩ := hsignUp
    exact (Accounts.create_discreet draft).map _
  · have hother (draft : Option UserDraft) (hjob : job = .signUp draft) : False := hsignUp ⟨draft, hjob⟩
    refine (job_asks (fun e he => he.silent) job (fun draft hjob => (hother draft hjob).elim)
      (fun draft hjob => (hother draft hjob).elim) ?_ ?_ ?_).discreet
    · exact fun _ _ _ _ u notice h => nomatch h
    · exact fun u _ notice h => nomatch h
    · exact fun _ _ x notice h => nomatch h

end Discreet

/-! ### No trace -/

/-- The job only looks rows up. -/
def Job.OnlyLooks : Job → Prop
  | .getUser _ | .getSession _ | .verify _ => True
  | _ => False

/-- Tables and counters have been the same all along, and operators have not been told anything. -/
structure Traceless (s : Store) (xs : List (Exchange Store)) (s' : Store) : Prop where
  same : s' = s
  untouched : ∀ x ∈ xs, x.before = s ∧ x.after = s
  silent : ∀ x ∈ xs, ∀ notice, x.effect ≠ .notify notice

section Call

variable {h : Hasher} {r : Request} {job : Job} {s s' : Store} {xs : List (Exchange Store)}
  {value : Except ServiceFailure Value}

/-- Exchanges that leave the rows alone lead back to where they began. -/
theorem Call.same (call : Call h r job s xs value s') (idle : AllIdle xs) :
    s' = s ∧ ∀ x ∈ xs, x.before = s ∧ x.after = s :=
  call.chained.same fun x hx => (idle x hx).same (call.answers x hx)

/-- What a call has come back with fits what it has exchanged. -/
theorem Call.passed {Q : List (Exchange Store) → Except ServiceFailure Value → Prop}
    (call : Call h r job s xs value s') (hjob : Keeps job AllIdle Q (job.program h r)) : Q xs value := by
  have hdone := (hjob [] fun _ hx => nomatch hx).of_leads call.leads
  rwa [conduct, Watch.foldl_history] at hdone

/-- A lookup asks for no change. -/
theorem looks_of_onlyLooks (hjob : job.OnlyLooks) :
    Keeps job AllIdle (fun past _ => AllIdle past) (job.program h r) := by
  have hlooks {α : Type} {m : Service α} (hm : Looks job (fun _ => True) m) (f : α → Value) :
      Keeps job AllIdle (fun past _ => AllIdle past) (m >>= fun a => pure (f a)) :=
    Keeps.bind hm (fun _ _ hpast => hpast.1) fun _ _ hpast => hpast.1
  cases job with
  | getUser id => exact hlooks (Accounts.get_looks id) Value.user
  | getSession id => exact hlooks (Sessions.get_looks id) Value.session
  | verify authorization =>
    exact hlooks (Sessions.verify_looks authorization) fun p => Value.verified p.1 p.2
  | _ => exact hjob.elim

/-- **A rejection leaves no trace**: if a call comes back with one, tables and counters have been the same at
    every step, and operators have not been told anything. A lookup or a verification leaves the store alone
    whatever it comes back with. -/
theorem rejection_traceless (call : Call h r job s xs value s') :
    (∀ rejection, value = .error (.rejected rejection) → Traceless s xs s') ∧
      (job.OnlyLooks → s' = s) := by
  constructor
  · rintro rejection rfl
    have idle : AllIdle xs := call.passed (job_concludes h r job)
    obtain ⟨hsame, huntouched⟩ := call.same idle
    exact ⟨hsame, huntouched, (job_discreet job).silent xs rejection call.leads⟩
  · intro hjob
    exact (call.same (call.passed (looks_of_onlyLooks hjob))).1

end Call

/-- A user who is given a password after having been deleted is not found, though the password has been
    hashed by then. -/
theorem rejection_traceless_late : ∃ xs,
    Call plainHasher Accounts.securing.request
    (.update (some Accounts.ann) none (some Accounts.securing.draft))
      .empty xs (.error (.rejected .userNotFound)) .empty ∧ Traceless .empty xs .empty := by
  obtain ⟨xs, call⟩ := call_of_runOn plainHasher Accounts.securing.request
    (.update (some Accounts.ann) none (some Accounts.securing.draft)) (.calm .epoch) .empty
  have hdone : ((Job.program plainHasher Accounts.securing.request
      (.update (some Accounts.ann) none (some Accounts.securing.draft))).runOn (.calm .epoch) .empty)
      = (.error (.rejected .userNotFound), .empty) := by
    show (Accounts.update _ _ _ _ _ >>= _ : Service Value).runOn _ _ = _
    rw [Accounts.update_of_check Accounts.check_securing]
    rfl
  rw [hdone] at call
  exact ⟨xs, call, (rejection_traceless call).1 _ rfl⟩

end Turnstile

