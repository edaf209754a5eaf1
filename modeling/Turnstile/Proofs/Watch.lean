import Turnstile.Proofs.Interleaving

namespace Turnstile

/-!
# Watching a program

What a program does among others is told step by step: a `Watch` notes what it needs of each exchange and
demands something of it.

* `Program.Passes` says that a program meets the demands whatever it is answered, and that its value fits
  what has been noted by then. It is read off the text of the program, one question after another.
* `Run.passes`, `Run.demands` and `Run.post_of_finished` carry it over to any run in which the program is
  one of the tasks.
* `Watch.history` notes everything.
-/

/-- What is noted of the exchanges of a program, and what is demanded of each. -/
structure Watch (σ γ : Type) where
  note : γ → Exchange σ → γ
  demands : γ → Exchange σ → Prop

variable {σ γ κ α β : Type} {w : Watch σ γ} {g : γ}

namespace Program

/-- Behind what has been noted so far, the program meets every demand, and it ends only with a value that
    fits the notes. -/
def Passes (w : Watch σ γ) (post : γ → α → Prop) : Program α → γ → Prop
  | done value, g => post g value
  | ask e next, g => ∀ (answer : e.Answer) (before after : σ),
      w.demands g ⟨e, answer, before, after⟩ ∧
        (next answer).Passes w post (w.note g ⟨e, answer, before, after⟩)

theorem passes_ask {post : γ → α → Prop} {e : Effect} {next : e.Answer → Program α} :
    (ask e next).Passes w post g ↔ ∀ (answer : e.Answer) (before after : σ),
      w.demands g ⟨e, answer, before, after⟩ ∧
        (next answer).Passes w post (w.note g ⟨e, answer, before, after⟩) := Iff.rfl

/-- Two programs in a row are watched in a row. -/
theorem passes_bind {post : γ → β → Prop} (p : Program α) (f : α → Program β) :
    (p.bind f).Passes w post g ↔ p.Passes w (fun g value => (f value).Passes w post g) g := by
  induction p generalizing g with
  | done value => rfl
  | ask e next ih => simp only [ask_bind, passes_ask, ih]

/-- What fits the notes may be said more weakly. -/
theorem Passes.mono {post post' : γ → α → Prop} {p : Program α} (h : p.Passes w post g)
    (weaken : ∀ g value, post g value → post' g value) : p.Passes w post' g := by
  induction p generalizing g with
  | done value => exact weaken g value h
  | ask e next ih =>
    intro answer before after
    obtain ⟨demanded, rest⟩ := h answer before after
    exact ⟨demanded, ih answer rest⟩

end Program

/-! ### Watching the tasks of a run -/

/-- The exchanges of one task. -/
def Trace.own (T : Trace σ) (i : Nat) : List (Exchange σ) :=
  T.filterMap fun step => if step.1 = i then some step.2 else none

/-- What a watch has noted of one task. -/
def Trace.noted (T : Trace σ) (w : Watch σ γ) (i : Nat) (g : γ) : γ := (T.own i).foldl w.note g

namespace Trace

variable {T : Trace σ} {i j : Nat} {x : Exchange σ}

@[simp] theorem mem_own : x ∈ T.own i ↔ (i, x) ∈ T := by
  simp only [own, List.mem_filterMap, Prod.exists]
  constructor
  · rintro ⟨j, y, h, k⟩
    split at k
    · next hj => cases k; exact hj ▸ h
    · cases k
  · intro h
    exact ⟨i, x, h, if_pos rfl⟩

theorem own_append (T T' : Trace σ) (i : Nat) : Trace.own (T ++ T') i = T.own i ++ T'.own i :=
  List.filterMap_append

/-- Where the exchanges of one task are parted, the trace can be parted. -/
theorem part_own {xs ys : List (Exchange σ)} (h : T.own i = xs ++ x :: ys) :
    ∃ A B : Trace σ, T = A ++ (i, x) :: B ∧ A.own i = xs ∧ B.own i = ys := by
  obtain ⟨A, C, rfl, hA, hC⟩ := List.filterMap_eq_append_iff.1 h
  obtain ⟨others, ⟨j, y⟩, B, rfl, hothers, hy, hB⟩ := List.filterMap_eq_cons_iff.1 hC
  obtain ⟨rfl, rfl⟩ : j = i ∧ y = x := by simpa using hy
  refine ⟨A ++ others, B, by simp, ?_, hB⟩
  rw [own_append, own, own, hA, List.filterMap_eq_nil_iff.2 hothers, List.append_nil]

theorem own_snoc_self : Trace.own (T ++ [(i, x)]) i = T.own i ++ [x] := by
  simp [own]

theorem own_snoc_ne (h : j ≠ i) : Trace.own (T ++ [(j, x)]) i = T.own i := by
  simp [own, h]

theorem noted_snoc_self : Trace.noted (T ++ [(i, x)]) w i g = w.note (T.noted w i g) x := by
  simp [noted, own_snoc_self]

theorem noted_snoc_ne (h : j ≠ i) : Trace.noted (T ++ [(j, x)]) w i g = T.noted w i g := by
  rw [noted, own_snoc_ne h, noted]

end Trace

/-- The watch that notes every exchange. -/
def Watch.history (demands : List (Exchange σ) → Exchange σ → Prop) :
    Watch σ (List (Exchange σ)) where
  note := fun past x => past ++ [x]
  demands := demands

/-- Noting everything is appending, one exchange at a time. -/
theorem Watch.foldl_history (demands : List (Exchange σ) → Exchange σ → Prop)
    (l past : List (Exchange σ)) : l.foldl (Watch.history demands).note past = past ++ l := by
  induction l generalizing past with
  | nil => rw [List.foldl_nil, List.append_nil]
  | cons x l ih =>
    rw [List.foldl_cons, ih]
    exact List.append_cons past x l |>.symm

theorem Trace.noted_history (demands : List (Exchange σ) → Exchange σ → Prop) (T : Trace σ)
    (i : Nat) : T.noted (.history demands) i [] = T.own i :=
  Watch.foldl_history demands (T.own i) []

namespace System.Run

variable {S : System σ κ α} {s : σ} {c : Crowd σ κ α} {T : Trace σ} {i : Nat} {x : Exchange σ}
  {job : κ} {p : Program α} {post : γ → α → Prop}

/-- A place that no task has been given yet has no exchanges. -/
theorem own_eq_nil (h : S.Run ⟨s, []⟩ T c) (hi : c.tasks.length ≤ i) : T.own i = [] := by
  rw [List.eq_nil_iff_forall_not_mem]
  intro x hx
  obtain ⟨_, _, _, _, _, _, _, _, hjob⟩ := h.job_of_mem (Trace.mem_own.1 hx)
  have hlt := Crowd.lt_length_of_job? hjob
  omega

/-- A task that is launched in the second of two runs has exchanged nothing in the first. -/
theorem own_append_of_le {T' : Trace σ} (h : S.Run ⟨s, []⟩ T c) (hi : c.tasks.length ≤ i) :
    Trace.own (T ++ T') i = T'.own i := by
  rw [Trace.own_append, h.own_eq_nil hi, List.nil_append]

/-- **What is left of a task passes.** If a job's program passes a watch, then at every point of every
    run what is left of it passes behind what has been noted. -/
theorem passes (h : S.Run ⟨s, []⟩ T c) (hi : c.tasks[i]? = some ⟨job, p⟩)
    (hp : (S.program job).Passes w post g) : p.Passes w post (T.noted w i g) := by
  induction h generalizing p with
  | start => simp at hi
  | @launch T c k run ih =>
    rcases Nat.lt_or_ge i c.tasks.length with hlt | hge
    · rw [List.getElem?_append_left hlt] at hi
      exact ih hi
    · -- the task that was launched: nothing of it has been noted
      rw [List.getElem?_append_right hge, List.getElem?_singleton] at hi
      split at hi
      · cases hi
        rwa [Trace.noted, run.own_eq_nil hge]
      · cases hi
  | @step T c j k x next run task now answers ih =>
    by_cases hj : j = i
    · -- the task itself went on, and what it asked was one of the questions it passes with
      subst hj
      rw [List.getElem?_set_self (List.getElem?_eq_some_iff.1 task).1] at hi
      cases hi
      rw [Trace.noted_snoc_self]
      exact (ih task x.answer x.before x.after).2
    · -- another one did: neither the task nor the notes on it have changed
      rw [List.getElem?_set_ne hj] at hi
      rw [Trace.noted_snoc_ne hj]
      exact ih hi

/-- **Each exchange of a task meets the demands** of a watch that the job's program passes. -/
theorem demands (h : S.Run ⟨s, []⟩ T c) (hi : c.job? i = some job)
    (hp : (S.program job).Passes w post g) (hx : (i, x) ∈ T) :
    ∃ before after, T = before ++ (i, x) :: after ∧ w.demands (Trace.noted before w i g) x := by
  obtain ⟨before, after, b, k, next, rfl, run, task, hk⟩ := h.job_of_mem hx
  obtain rfl : k = job := Option.some.inj (hk ▸ hi)
  refine ⟨before, after, rfl, ?_⟩
  exact (run.passes task hp x.answer x.before x.after).1

/-- What has been noted of a finished task fits its value. -/
theorem post_of_finished {value : α} (h : S.Run ⟨s, []⟩ T c) (hi : c.Finished i job value)
    (hp : (S.program job).Passes w post g) : post (T.noted w i g) value :=
  h.passes hi hp

end System.Run

end Turnstile
