import Turnstile.Proofs.Watch

namespace Turnstile

/-!
# Where answers lead

A program that has been answered some of its questions has come to what is left of it.

* `Program.Leads` says so. What two programs in a row have been answered falls into two parts
  (`leads_bind_done`, `leads_bind_of_leads`).
* `Passes.of_leads`: a watch that a program passes is passed by what is left of it.
* `Program.Asks` holds of programs that ask only questions with a property, whatever they are answered.
* `Run.leads`: at every point of a run, what a task has exchanged leads from its program to what is left
  of it.
-/

variable {σ κ α β : Type}

namespace Program

/-! ### Answered questions -/

/-- Answered by these exchanges, one after the other, a program comes to another one. -/
def Leads : Program α → List (Exchange σ) → Program α → Prop
  | p, [], q => p = q
  | done _, _ :: _, _ => False
  | ask e next, x :: rest, q =>
    ∃ answer before after, x = ⟨e, answer, before, after⟩ ∧ (next answer).Leads rest q

variable {p q r : Program α} {f : α → Program β} {e : Effect} {next : e.Answer → Program α}
  {value : α} {result : β} {x : Exchange σ} {xs ys zs : List (Exchange σ)}

@[simp] theorem leads_nil : p.Leads (σ := σ) [] q ↔ p = q := by
  cases p <;> exact Iff.rfl

theorem leads_cons : (ask e next).Leads (x :: xs) q ↔
    ∃ answer before after, x = ⟨e, answer, before, after⟩ ∧ (next answer).Leads xs q := Iff.rfl

/-- Who is done asks nothing more. -/
theorem leads_done : (done value).Leads xs q ↔ xs = [] ∧ q = done value := by
  cases xs with
  | nil => simp [eq_comm]
  | cons x xs => exact ⟨fun h => h.elim, fun h => nomatch h.1⟩

/-- Whoever has a question and is done has been answered it. -/
theorem leads_ask_done : (ask e next).Leads xs (done value) ↔
    ∃ answer before after rest, xs = ⟨e, answer, before, after⟩ :: rest ∧
      (next answer).Leads rest (done value) := by
  cases xs with
  | nil => simp
  | cons x xs =>
    rw [leads_cons]
    constructor
    · rintro ⟨answer, before, after, rfl, h⟩
      exact ⟨answer, before, after, xs, rfl, h⟩
    · rintro ⟨answer, before, after, rest, heq, h⟩
      obtain ⟨rfl, rfl⟩ := List.cons.inj heq
      exact ⟨answer, before, after, rfl, h⟩

/-- One more answer. -/
theorem Leads.snoc {next : x.effect.Answer → Program α} (h : p.Leads xs (ask x.effect next)) :
    p.Leads (xs ++ [x]) (next x.answer) := by
  induction xs generalizing p with
  | nil =>
    rw [leads_nil] at h
    subst h
    exact ⟨x.answer, x.before, x.after, rfl, leads_nil.2 rfl⟩
  | cons y xs ih =>
    cases p with
    | done value => exact h.elim
    | ask e next' =>
      obtain ⟨answer, before, after, rfl, h⟩ := h
      exact ⟨answer, before, after, rfl, ih h⟩

/-! ### Programs in a row -/

/-- **The two parts** of what two programs in a row have been answered once they are done. -/
theorem leads_bind_done : (p.bind f).Leads xs (done result) ↔
    ∃ ys zs value, xs = ys ++ zs ∧ p.Leads ys (done value) ∧ (f value).Leads zs (done result) := by
  induction p generalizing xs with
  | done value =>
    simp only [done_bind, leads_done]
    constructor
    · exact fun h => ⟨[], xs, value, rfl, ⟨rfl, rfl⟩, h⟩
    · rintro ⟨ys, zs, value', rfl, ⟨rfl, hvalue⟩, h⟩
      cases hvalue
      exact h
  | ask e next ih =>
    simp only [ask_bind, leads_ask_done, ih]
    constructor
    · rintro ⟨answer, before, after, _, rfl, ys, zs, value, rfl, h, h'⟩
      exact ⟨_ :: ys, zs, value, rfl, ⟨answer, before, after, ys, rfl, h⟩, h'⟩
    · rintro ⟨_, zs, value, rfl, ⟨answer, before, after, ys, rfl, h⟩, h'⟩
      exact ⟨answer, before, after, ys ++ zs, rfl, ys, zs, value, rfl, h, h'⟩

/-- If the first program was done with the first part, the second one has been answered the rest. -/
theorem leads_bind_of_leads {q : Program β} (hp : p.Leads ys (done value))
    (h : (p.bind f).Leads (ys ++ zs) q) : (f value).Leads zs q := by
  induction ys generalizing p with
  | nil =>
    rw [leads_nil] at hp
    subst hp
    exact h
  | cons y ys ih =>
    cases p with
    | done value => exact hp.elim
    | ask e next =>
      obtain ⟨answer, before, after, rfl, hp⟩ := hp
      obtain ⟨_, _, _, heq, h⟩ := h
      cases heq
      exact ih hp h

/-! ### Watched programs -/

section Watched

variable {γ : Type} {w : Watch σ γ} {g : γ} {post : γ → α → Prop}

/-- What is left of a program that passes a watch passes it behind what has been noted. -/
theorem Passes.of_leads (hp : p.Passes w post g) (h : p.Leads xs q) :
    q.Passes w post (xs.foldl w.note g) := by
  induction xs generalizing p g with
  | nil =>
    rw [leads_nil] at h
    exact h ▸ hp
  | cons x xs ih =>
    cases p with
    | done value => exact h.elim
    | ask e next =>
      obtain ⟨answer, before, after, rfl, h⟩ := h
      exact ih (hp answer before after).2 h

end Watched

/-! ### What is asked -/

/-- All questions of the program have a property, whatever it is answered. -/
def Asks (P : Effect → Prop) : Program α → Prop
  | done _ => True
  | ask e next => P e ∧ ∀ answer, (next answer).Asks P

variable {P Q : Effect → Prop}

theorem asks_perform {e : Effect} (h : P e) : (perform e).Asks P := ⟨h, fun _ => trivial⟩

theorem Asks.bind (hp : p.Asks P) (hf : ∀ value, (f value).Asks P) : (p.bind f).Asks P := by
  induction p with
  | done value => exact hf value
  | ask e next ih => exact ⟨hp.1, fun answer => ih answer (hp.2 answer)⟩

theorem Asks.mono (hp : p.Asks P) (weaken : ∀ e, P e → Q e) : p.Asks Q := by
  induction p with
  | done value => trivial
  | ask e next ih => exact ⟨weaken e hp.1, fun answer => ih answer (hp.2 answer)⟩

/-- What has been asked on the way has the property. -/
theorem Asks.of_leads (hp : p.Asks P) (h : p.Leads xs q) : ∀ x ∈ xs, P x.effect := by
  induction xs generalizing p with
  | nil => exact fun _ hx => nomatch hx
  | cons y xs ih =>
    cases p with
    | done value => exact h.elim
    | ask e next =>
      obtain ⟨answer, before, after, rfl, h⟩ := h
      intro x hx
      rcases List.mem_cons.1 hx with rfl | hx
      · exact hp.1
      · exact ih (hp.2 answer) h x hx

end Program

/-! ### Tasks of a run -/

namespace System.Run

variable {S : System σ κ α} {s : σ} {c : Crowd σ κ α} {T : Trace σ} {i : Nat} {job : κ} {p : Program α}

/-- **What a task has exchanged** leads from its program to what is left of it. -/
theorem leads (h : S.Run ⟨s, []⟩ T c) (hi : c.tasks[i]? = some ⟨job, p⟩) :
    (S.program job).Leads (T.own i) p := by
  induction h generalizing p with
  | start => simp at hi
  | @launch T c k run ih =>
    rcases Nat.lt_or_ge i c.tasks.length with hlt | hge
    · rw [List.getElem?_append_left hlt] at hi
      exact ih hi
    · -- the task that was launched has not asked anything
      rw [List.getElem?_append_right hge, List.getElem?_singleton] at hi
      split at hi
      · cases hi
        rw [run.own_eq_nil hge]
        exact Program.leads_nil.2 rfl
      · cases hi
  | @step T c j k x next run task now answers ih =>
    by_cases hj : j = i
    · subst hj
      rw [List.getElem?_set_self (List.getElem?_eq_some_iff.1 task).1] at hi
      cases hi
      rw [Trace.own_snoc_self]
      exact (ih task).snoc
    · rw [List.getElem?_set_ne hj] at hi
      rw [Trace.own_snoc_ne hj]
      exact ih hi

end System.Run

end Turnstile
