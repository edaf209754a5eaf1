import Turnstile.Proofs.Store.Rows
import Turnstile.Proofs.Watch
import Turnstile.Sessions

namespace Turnstile

open Credential (Hasher)

/-!
# Requests on one store

The operations of the service as jobs that run at once on one store.

* `Job` lists the operations, and `Job.program` says what they do.
* `Store.Answers`: each call on the store is answered at once, by the store or by a failure of the
  connection that leaves the store alone; all other answers are open.
* `service` is the system of the two.
* `Service.Passes` is `Program.Passes` for operations that can fail, with a rule for each of their parts.
-/

/-! ### Jobs -/

/-- An operation of the service with what it is given. -/
inductive Job where
  | signUp (draft : Option UserDraft)
  | update (user : Option User) (active : Option Session) (draft : Option UserDraft)
  | getUser (id : Id)
  | deleteUser (user : Option User)
  | signIn (signIn : Option SignIn)
  | getSession (id : Id)
  | signOut (userId : Id) (keep : Option Session)
  | verify (authorization : String)

/-- What an operation gives. -/
inductive Value where
  | user (user : User)
  | session (session : Session)
  | count (count : Nat)
  | verified (session : Session) (user : User)

/-- What an operation does, on behalf of a request. -/
def Job.program (h : Hasher) (r : Request) : Job → Service Value
  | signUp draft => return .user (← Accounts.create h r draft)
  | update user active draft => return .user (← Accounts.update h r user active draft)
  | getUser id => return .user (← Accounts.get id)
  | deleteUser user => return .user (← Accounts.delete r user)
  | signIn s => return .session (← Sessions.create h r s)
  | getSession id => return .session (← Sessions.get id)
  | signOut userId keep => return .count (← Sessions.delete r userId keep)
  | verify authorization => do
    let (session, user) ← Sessions.verify h r authorization
    return .verified session user

/-! ### The system -/

/-- An exchange was answered by the store itself. -/
def Store.Serves (s : Store) : (e : Effect) → e.Answer → Store → Prop
  | .users call, answer, s' => s.callUsers call = (answer, s')
  | .sessions call, answer, s' => s.callSessions call = (answer, s')
  | _, _, s' => s' = s

/-- A call was refused before it reached the store. -/
def Store.Refuses (s : Store) : (e : Effect) → e.Answer → Store → Prop
  | .users _, answer, s' => (∃ f, answer = .error f) ∧ s' = s
  | .sessions _, answer, s' => (∃ f, answer = .error f) ∧ s' = s
  | _, _, _ => False

/-- How the store answers. -/
def Store.Answers (s : Store) (e : Effect) (answer : e.Answer) (s' : Store) : Prop :=
  s.Serves e answer s' ∨ s.Refuses e answer s'

/-- Operations on behalf of requests, all on one store. -/
def service (h : Hasher) : System Store (Request × Job) (Except ServiceFailure Value) where
  program := fun (r, job) => (job.program h r).run
  answers := Store.Answers

/-- The crowd of an empty store, without any operation. -/
def Crowd.nobody {κ α : Type} : Crowd Store κ α := ⟨.empty, []⟩

/-- The store itself answered. -/
def Exchange.Served (x : Exchange Store) : Prop := x.before.Serves x.effect x.answer x.after

/-! ### What answers can do -/

namespace Store

variable {s s' : Store} {e : Effect} {answer : e.Answer}

/-- An exchange leaves the store alone or is one of its changes. -/
theorem Answers.cases (h : s.Answers e answer s') : s' = s ∨ s.Writes e s' := by
  rcases h with h | h
  · cases e with
    | users call =>
      have hcases := s.callUsers_cases call
      rw [show s.callUsers call = (answer, s') from h] at hcases
      exact hcases.imp_right And.right
    | sessions call =>
      have hcases := s.callSessions_cases call
      rw [show s.callSessions call = (answer, s') from h] at hcases
      exact hcases.imp_right And.right
    | _ => exact .inl h
  · -- what is refused does not reach the store
    cases e with
    | users call => exact .inl h.2
    | sessions call => exact .inl h.2
    | _ => exact h.elim

/-- A call that fails leaves the store alone. -/
theorem Answers.eq_of_error {call : UserCall} {f : RepositoryFailure}
    (h : s.Answers (.users call) (.error f) s') : s' = s := by
  rcases h with h | h
  · have hcases := s.callUsers_cases call
    rw [show s.callUsers call = (.error f, s') from h] at hcases
    rcases hcases with hsame | ⟨⟨result, hok⟩, -⟩
    · exact hsame
    · cases hok
  · exact h.2

/-- A call that fails leaves the store alone. -/
theorem Answers.eq_of_sessionsError {call : SessionCall} {f : RepositoryFailure}
    (h : s.Answers (.sessions call) (.error f) s') : s' = s := by
  rcases h with h | h
  · have hcases := s.callSessions_cases call
    rw [show s.callSessions call = (.error f, s') from h] at hcases
    rcases hcases with hsame | ⟨⟨result, hok⟩, -⟩
    · exact hsame
    · cases hok
  · exact h.2

/-- A result can only have come from the store itself. -/
theorem Answers.callUsers_of_ok {call : UserCall} {result : call.Result}
    (h : s.Answers (.users call) (.ok result) s') : s.callUsers call = (.ok result, s') := by
  rcases h with h | ⟨⟨f, hf⟩, -⟩
  · exact h
  · cases hf

/-- A result can only have come from the store itself. -/
theorem Answers.callSessions_of_ok {call : SessionCall} {result : call.Result}
    (h : s.Answers (.sessions call) (.ok result) s') : s.callSessions call = (.ok result, s') := by
  rcases h with h | ⟨⟨f, hf⟩, -⟩
  · exact h
  · cases hf

theorem Answers.keyed (h : s.Answers e answer s') (hs : s.Keyed) : s'.Keyed := by
  rcases h.cases with rfl | h
  · exact hs
  · exact h.keyed hs

end Store

section Run

variable {h : Hasher} {a c : Crowd Store (Request × Job) (Except ServiceFailure Value)} {T : Trace Store}
  {i : Nat} {x : Exchange Store}

/-- Through a run, keys stay in order. -/
theorem Store.Keyed.of_run (keyed : a.shared.Keyed) (run : (service h).Run a T c) : c.shared.Keyed :=
  run.invariant keyed fun _ hx => hx.keyed

/-- They are so in front of each exchange. -/
theorem Store.Keyed.of_mem (keyed : a.shared.Keyed) (run : (service h).Run a T c) (hx : (i, x) ∈ T) :
    x.before.Keyed :=
  (run.invariant_of_mem keyed (fun _ hx => hx.keyed) hx).1

/-- In every run from the empty store, keys stay in order. -/
theorem keyed_of_run (run : (service h).Run .nobody T c) : c.shared.Keyed := Store.empty_keyed.of_run run

/-- So they do around each exchange. -/
theorem keyed_of_mem (run : (service h).Run .nobody T c) (hx : (i, x) ∈ T) : x.before.Keyed :=
  Store.empty_keyed.of_mem run hx

end Run

/-! ### Watching an operation -/

namespace Service

variable {σ γ α β : Type} {w : Watch σ γ} {g : γ}

/-- The operation meets the demands of a watch, and comes back only as `post` says. -/
def Passes (w : Watch σ γ) (post : γ → Except ServiceFailure α → Prop) (m : Service α) (g : γ) :
    Prop :=
  m.run.Passes w post g

/-- Go on with a value; a failure is the end. -/
def Onward (post : γ → Except ServiceFailure β → Prop) (f : α → γ → Prop) (g : γ) :
    Except ServiceFailure α → Prop
  | .ok value => f value g
  | .error failure => post g (.error failure)

variable {post : γ → Except ServiceFailure α → Prop}

/-- Operations in a row are watched in a row. -/
theorem passes_bind {post : γ → Except ServiceFailure β → Prop} {m : Service α}
    {f : α → Service β} :
    Passes w post (m >>= f) g ↔
      Passes w (Onward post fun value g => Passes w post (f value) g) m g := by
  show (m.run.bind (ExceptT.bindCont f)).Passes w post g ↔ _
  rw [Program.passes_bind]
  refine iff_of_eq (congrArg (fun q => m.run.Passes w q g) ?_)
  funext g result
  cases result <;> rfl

theorem passes_perform {e : Effect} {post : γ → Except ServiceFailure e.Answer → Prop} :
    Passes w post (perform e) g ↔ ∀ (answer : e.Answer) (before after : σ),
      w.demands g ⟨e, answer, before, after⟩ ∧
        post (w.note g ⟨e, answer, before, after⟩) (.ok answer) := Iff.rfl

theorem Passes.mono {post' : γ → Except ServiceFailure α → Prop} {m : Service α}
    (h : Passes w post m g) (weaken : ∀ g result, post g result → post' g result) :
    Passes w post' m g :=
  Program.Passes.mono h weaken

/-- Changing the value changes what comes back. -/
theorem passes_map {post : γ → Except ServiceFailure β → Prop} {m : Service α} (f : α → β) :
    Passes w post (m >>= fun value => pure (f value)) g ↔
      Passes w (fun g result => post g (result.map f)) m g := by
  rw [passes_bind]
  refine iff_of_eq (congrArg (fun q => Passes w q m g) ?_)
  funext g result
  cases result <;> rfl

/-- A call on the users: its result, or its failure under a name. -/
theorem passes_users {context : String} {call : UserCall}
    {post : γ → Except ServiceFailure call.Result → Prop} :
    Passes w post (users context call) g ↔
      ∀ (answer : Except RepositoryFailure call.Result) (before after : σ),
        w.demands g ⟨.users call, answer, before, after⟩ ∧
          post (w.note g ⟨.users call, answer, before, after⟩)
            (answer.mapError (.repository context)) := by
  rw [users, passes_bind, passes_perform]
  refine forall_congr' fun answer => ?_
  cases answer <;> rfl

/-- A call on the sessions: its result, or its failure under a name. -/
theorem passes_sessions {context : String} {call : SessionCall}
    {post : γ → Except ServiceFailure call.Result → Prop} :
    Passes w post (sessions context call) g ↔
      ∀ (answer : Except RepositoryFailure call.Result) (before after : σ),
        w.demands g ⟨.sessions call, answer, before, after⟩ ∧
          post (w.note g ⟨.sessions call, answer, before, after⟩)
            (answer.mapError (.repository context)) := by
  rw [sessions, passes_bind, passes_perform]
  refine forall_congr' fun answer => ?_
  cases answer <;> rfl

/-! ### What comes back -/

/-- A job whose operation has passed a watch comes back with a result of the operation. -/
theorem result_of_finished {h : Hasher} {s : Store} {T : Trace Store}
    {c : Crowd Store (Request × Job) (Except ServiceFailure Value)} {i : Nat} {r : Request} {job : Job}
    {value : Except ServiceFailure Value} {w : Watch Store γ} {m : Service β}
    {post : γ → Except ServiceFailure β → Prop} {f : β → Value} (run : (service h).Run ⟨s, []⟩ T c)
    (hi : c.Finished i (r, job) value) (hjob : job.program h r = m >>= fun b => pure (f b))
    (hm : Passes w post m g) : ∃ result, value = result.map f ∧ post (T.noted w i g) result := by
  have hpasses : ((service h).program (r, job)).Passes w
      (fun noted value => ∃ result, value = result.map f ∧ post noted result) g := by
    show Passes _ _ (job.program h r) g
    rw [hjob, passes_map]
    exact hm.mono fun noted result hpost => ⟨result, rfl, hpost⟩
  exact run.post_of_finished hi hpasses

/-- Nothing is demanded; everything is noted. -/
def notes : Watch σ (List (Exchange σ)) := .history fun _ _ => True

/-- What is said of a value that comes back, behind what has been exchanged. -/
def Given (Q : List (Exchange σ) → α → Prop) (past : List (Exchange σ)) :
    Except ServiceFailure α → Prop
  | .ok a => Q past a
  | .error _ => True

/-- Behind exchanges with a property, the operation gives only what is said. -/
def Gives (K : List (Exchange σ) → Prop) (Q : List (Exchange σ) → α → Prop) (m : Service α) : Prop :=
  ∀ past, K past → m.Passes notes (Given Q) past

section Gives

variable {K : List (Exchange σ) → Prop} {Q : List (Exchange σ) → α → Prop}

theorem gives_pure {a : α} (h : ∀ past, K past → Q past a) : Gives K Q (pure a) := h

theorem Gives.weaken {K' : List (Exchange σ) → Prop} {m : Service α} (h : Gives K Q m)
    (hK : ∀ past, K' past → K past) : Gives K' Q m :=
  fun past hpast => h past (hK past hpast)

/-- What has been exchanged before is not forgotten, whatever is asked. -/
theorem passes_notes (hK : ∀ past x, K past → K (past ++ [x])) (p : Program α)
    (past : List (Exchange σ)) (hpast : K past) : p.Passes notes (fun past' _ => K past') past := by
  induction p generalizing past with
  | done value => exact hpast
  | ask e next ih =>
    intro answer before after
    exact ⟨trivial, ih answer _ (hK _ _ hpast)⟩

/-- What comes back is decided by what is done last. -/
theorem Gives.bind {m : Service β} {f : β → Service α} (hK : ∀ past x, K past → K (past ++ [x]))
    (hf : ∀ b, Gives K Q (f b)) : Gives K Q (m >>= f) := by
  intro past hpast
  rw [passes_bind]
  refine Passes.mono (passes_notes hK m.run past hpast) ?_
  rintro past' (failure | b) hpast'
  · exact trivial
  · exact hf b past' hpast'

/-- What follows the result of a call may rely on it. -/
theorem gives_users {context : String} {call : UserCall} {f : call.Result → Service α}
    (hf : ∀ result, Gives
      (fun past => ∃ before after, ⟨.users call, .ok result, before, after⟩ ∈ past) Q (f result)) :
    Gives K Q (users context call >>= f) := by
  intro past _
  rw [passes_bind, passes_users]
  intro answer before after
  refine ⟨trivial, ?_⟩
  rcases answer with failure | result
  · exact trivial
  · exact hf result _ ⟨before, after, List.mem_append_right _ List.mem_cons_self⟩

/-- What comes back may be dressed up. -/
theorem Gives.map {m : Service β} {R : List (Exchange σ) → β → Prop} (hm : Gives K R m) {f : β → α}
    (hf : ∀ past b, R past b → Q past (f b)) : Gives K Q (m >>= fun b => pure (f b)) := by
  intro past hpast
  rw [passes_map]
  refine (hm past hpast).mono ?_
  rintro past' (failure | b) hgiven
  · exact trivial
  · exact hf past' b hgiven

end Gives

end Service

end Turnstile
