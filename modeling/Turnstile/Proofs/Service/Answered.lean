import Turnstile.Proofs.Leads
import Turnstile.Proofs.Service.Jobs

namespace Turnstile.Service

/-!
# Operations that have come back

What an operation has been answered on the way to its result, part by part: `Program.Leads` for
operations that can fail.

* `leads_bind`: of two operations in a row, the first one has failed, or the second one has followed it. By
  `leads_bind_ok` and `leads_bind_error`, a success is one of both, and a failure is one of either.
* `leads_perform`, `leads_users` and `leads_sessions`: one question, one exchange.
-/

variable {σ α β : Type} {m : Service α} {f : α → Service β} {xs : List (Exchange σ)}

/-! ### Operations in a row -/

/-- An operation has failed in its first part, or has gone on with a value of it. -/
theorem leads_bind {result : Except ServiceFailure β} :
    (m >>= f).run.Leads xs (.done result) ↔
      (∃ failure, m.run.Leads xs (.done (.error failure)) ∧ result = .error failure) ∨
      ∃ ys zs a, xs = ys ++ zs ∧ m.run.Leads ys (.done (.ok a)) ∧ (f a).run.Leads zs (.done result) := by
  show (m.run.bind (ExceptT.bindCont f)).Leads xs _ ↔ _
  rw [Program.leads_bind_done]
  constructor
  · rintro ⟨ys, zs, failure | a, rfl, hm, hf⟩
    · obtain ⟨rfl, hresult⟩ := Program.leads_done.1 hf
      rw [List.append_nil]
      exact .inl ⟨failure, hm, Program.done.inj hresult⟩
    · exact .inr ⟨ys, zs, a, rfl, hm, hf⟩
  · rintro (⟨failure, hm, rfl⟩ | ⟨ys, zs, a, rfl, hm, hf⟩)
    · exact ⟨xs, [], .error failure, (List.append_nil xs).symm, hm, Program.leads_done.2 ⟨rfl, rfl⟩⟩
    · exact ⟨ys, zs, .ok a, rfl, hm, hf⟩

/-- An operation that has succeeded has succeeded in its first part, and then in what follows its value. -/
theorem leads_bind_ok {b : β} :
    (m >>= f).run.Leads xs (.done (.ok b)) ↔
      ∃ ys zs a, xs = ys ++ zs ∧ m.run.Leads ys (.done (.ok a)) ∧ (f a).run.Leads zs (.done (.ok b)) := by
  rw [leads_bind]
  exact or_iff_right fun ⟨_, _, h⟩ => nomatch h

/-- An operation that has failed failed in its first part, or in what follows a value of the first part. -/
theorem leads_bind_error {failure : ServiceFailure} :
    (m >>= f).run.Leads xs (.done (.error failure)) ↔
      m.run.Leads xs (.done (.error failure)) ∨
      ∃ ys zs a, xs = ys ++ zs ∧ m.run.Leads ys (.done (.ok a)) ∧
        (f a).run.Leads zs (.done (.error failure)) := by
  rw [leads_bind]
  refine or_congr_left ⟨?_, fun hm => ⟨failure, hm, rfl⟩⟩
  rintro ⟨failure', hm, heq⟩
  cases heq
  exact hm

/-- What comes back may be dressed up. -/
theorem leads_map {g : α → β} {result : Except ServiceFailure β} :
    (m >>= fun a => pure (g a)).run.Leads xs (.done result) ↔
      ∃ inner, m.run.Leads xs (.done inner) ∧ result = inner.map g := by
  rw [leads_bind]
  constructor
  · rintro (⟨failure, hm, rfl⟩ | ⟨ys, zs, a, rfl, hm, hend⟩)
    · exact ⟨.error failure, hm, rfl⟩
    · obtain ⟨rfl, hresult⟩ := Program.leads_done.1 hend
      rw [List.append_nil]
      exact ⟨.ok a, hm, Program.done.inj hresult⟩
  · rintro ⟨failure | a, hm, rfl⟩
    · exact .inl ⟨failure, hm, rfl⟩
    · exact .inr ⟨xs, [], a, (List.append_nil xs).symm, hm, Program.leads_done.2 ⟨rfl, rfl⟩⟩

/-! ### Single steps -/

/-- Giving a value takes no exchange. -/
theorem leads_pure {a b : α} : (pure a : Service α).run.Leads xs (.done (.ok b)) ↔ xs = [] ∧ b = a := by
  show (Program.done (Except.ok a)).Leads xs _ ↔ _
  rw [Program.leads_done, Program.done.injEq, Except.ok.injEq]

theorem leads_throw {failure : ServiceFailure} {b : α} :
    ¬ (throw failure : Service α).run.Leads xs (.done (.ok b)) := by
  show ¬ (Program.done (Except.error failure)).Leads xs _
  rw [Program.leads_done]
  rintro ⟨-, hb⟩
  cases hb

theorem leads_checked {result : Except Rejection α} {a : α} :
    (checked result).run.Leads xs (.done (.ok a)) ↔ xs = [] ∧ result = .ok a := by
  cases result with
  | error rejection => exact iff_of_false leads_throw fun h => nomatch h.2
  | ok b => exact leads_pure.trans (and_congr_right' (by rw [Except.ok.injEq, eq_comm]))

theorem leads_orReject {rejection : Rejection} {value : Option α} {a : α} :
    (orReject rejection value).run.Leads xs (.done (.ok a)) ↔ xs = [] ∧ value = some a := by
  cases value with
  | none => exact iff_of_false leads_throw fun h => nomatch h.2
  | some b => exact leads_pure.trans (and_congr_right' (by rw [Option.some.injEq, eq_comm]))

/-- One question is one exchange. -/
theorem leads_perform {e : Effect} {answer : e.Answer} :
    (perform e).run.Leads xs (.done (.ok answer)) ↔ ∃ before after, xs = [⟨e, answer, before, after⟩] := by
  show (.ask e fun answer => .done (.ok answer) : Program (Except ServiceFailure e.Answer)).Leads xs _ ↔ _
  rw [Program.leads_ask_done]
  constructor
  · rintro ⟨answer', before, after, rest, rfl, h⟩
    obtain ⟨rfl, heq⟩ := Program.leads_done.1 h
    cases heq
    exact ⟨before, after, rfl⟩
  · rintro ⟨before, after, rfl⟩
    exact ⟨answer, before, after, [], rfl, Program.leads_nil.2 rfl⟩

theorem leads_repository {context : String} {answer : Except RepositoryFailure α} {a : α} :
    (repository context answer).run.Leads xs (.done (.ok a)) ↔ xs = [] ∧ answer = .ok a := by
  cases answer with
  | error failure => exact iff_of_false leads_throw fun h => nomatch h.2
  | ok b => exact leads_pure.trans (and_congr_right' (by rw [Except.ok.injEq, eq_comm]))

/-- A call on the users that has succeeded. -/
theorem leads_users {context : String} {call : UserCall} {result : call.Result} :
    (users context call).run.Leads xs (.done (.ok result)) ↔
      ∃ before after, xs = [⟨.users call, .ok result, before, after⟩] := by
  rw [users, leads_bind_ok]
  constructor
  · rintro ⟨ys, zs, answer, rfl, hasked, hdone⟩
    obtain ⟨before, after, rfl⟩ := leads_perform.1 hasked
    obtain ⟨rfl, rfl⟩ := leads_repository.1 hdone
    exact ⟨before, after, rfl⟩
  · rintro ⟨before, after, rfl⟩
    exact ⟨_, [], .ok result, rfl, leads_perform.2 ⟨before, after, rfl⟩, leads_repository.2 ⟨rfl, rfl⟩⟩

/-- A call on the sessions that has succeeded. -/
theorem leads_sessions {context : String} {call : SessionCall} {result : call.Result} :
    (sessions context call).run.Leads xs (.done (.ok result)) ↔
      ∃ before after, xs = [⟨.sessions call, .ok result, before, after⟩] := by
  rw [sessions, leads_bind_ok]
  constructor
  · rintro ⟨ys, zs, answer, rfl, hasked, hdone⟩
    obtain ⟨before, after, rfl⟩ := leads_perform.1 hasked
    obtain ⟨rfl, rfl⟩ := leads_repository.1 hdone
    exact ⟨before, after, rfl⟩
  · rintro ⟨before, after, rfl⟩
    exact ⟨_, [], .ok result, rfl, leads_perform.2 ⟨before, after, rfl⟩, leads_repository.2 ⟨rfl, rfl⟩⟩

end Turnstile.Service
