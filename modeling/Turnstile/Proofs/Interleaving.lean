import Turnstile.Program

namespace Turnstile

/-!
# Interleaving

Several programs run at once on shared surroundings, one step of one program after another and in any
order. What a program does between two questions is its own; only questions and their answers are seen by
others, so a step is one question with its answer.

* `Exchange` is one step: the question, the answer, and the shared state around it.
* `System` says how the shared state answers and what the jobs do.
* `System.Run` is a run: tasks are launched at any time, and each step goes on with any of them.
* `Run.parts` parts a run in two, and `Run.split` cuts it in front of an exchange.
* `Run.invariant` carries a property of the shared state from its start through a whole run;
  `Run.along` asks only the exchanges of the run to keep it, and `Run.stable` is the form for a property
  that, once it holds, is kept. `Run.exists_turn` finds the exchange that has put an end to a property, and
  `Run.once` is about what can happen only once.
-/

/-- One question of a program with its answer, and the shared state before and after it. -/
structure Exchange (σ : Type) where
  effect : Effect
  answer : effect.Answer
  before : σ
  after : σ

/-- A job and what is left of its program. -/
structure Task (κ α : Type) where
  job : κ
  rest : Program α

/-- The shared state, and the tasks in the order in which they were launched. -/
structure Crowd (σ κ α : Type) where
  shared : σ
  tasks : List (Task κ α)

/-- Exchanges, oldest first, each with the place of its task. -/
abbrev Trace (σ : Type) := List (Nat × Exchange σ)

/-- How the shared state answers, and what the jobs do. An answer need not be determined. -/
structure System (σ κ α : Type) where
  program : κ → Program α
  answers : σ → (e : Effect) → e.Answer → σ → Prop

variable {σ κ α : Type}

namespace Crowd

/-- The job of the task at a place. -/
def job? (c : Crowd σ κ α) (i : Nat) : Option κ := c.tasks[i]?.map (·.job)

/-- The task at a place has come to its end with a value. -/
def Finished (c : Crowd σ κ α) (i : Nat) (job : κ) (value : α) : Prop :=
  c.tasks[i]? = some ⟨job, .done value⟩

variable {c : Crowd σ κ α} {i j : Nat} {job : κ} {p q : Program α} {s : σ}

theorem job?_of_task (h : c.tasks[i]? = some ⟨job, p⟩) : c.job? i = some job := by
  rw [job?, h]; rfl

theorem lt_length_of_job? (h : c.job? i = some job) : i < c.tasks.length := by
  obtain ⟨task, h, -⟩ := Option.map_eq_some_iff.1 h
  exact (List.getElem?_eq_some_iff.1 h).1

/-- A step of a task leaves every job as it was. -/
theorem job?_set (h : c.tasks[i]? = some ⟨job, p⟩) :
    (⟨s, c.tasks.set i ⟨job, q⟩⟩ : Crowd σ κ α).job? j = c.job? j := by
  by_cases hj : i = j
  · subst hj
    rw [job?_of_task h, job?_of_task (List.getElem?_set_self (List.getElem?_eq_some_iff.1 h).1)]
  · simp only [job?, List.getElem?_set_ne hj]

/-- A job that is taken on comes behind the others. -/
theorem job?_launch (task : Task κ α) :
    (⟨s, c.tasks ++ [task]⟩ : Crowd σ κ α).job? j
      = if j = c.tasks.length then some task.job else c.job? j := by
  by_cases hj : j = c.tasks.length
  · simp [job?, hj]
  · rw [if_neg hj, job?, job?, List.getElem?_append]
    split
    · rfl
    · rw [List.getElem?_eq_none (by simp; omega), List.getElem?_eq_none (by omega)]

end Crowd

namespace System

/-- The exchange is one that the system can have. -/
def Answers (S : System σ κ α) (x : Exchange σ) : Prop :=
  S.answers x.before x.effect x.answer x.after

/-- A run from a crowd: what was exchanged, and the crowd that came of it. -/
inductive Run (S : System σ κ α) (start : Crowd σ κ α) : Trace σ → Crowd σ κ α → Prop where
  | start : Run S start [] start
  /-- A job is taken on; it has not done anything yet. -/
  | launch {T c} (job : κ) (run : Run S start T c) :
      Run S start T { c with tasks := c.tasks ++ [⟨job, S.program job⟩] }
  /-- A task asks its next question and is answered. -/
  | step {T c} {i : Nat} {job : κ} (x : Exchange σ) {next : x.effect.Answer → Program α}
      (run : Run S start T c) (task : c.tasks[i]? = some ⟨job, .ask x.effect next⟩)
      (now : x.before = c.shared) (answers : S.Answers x) :
      Run S start (T ++ [(i, x)]) ⟨x.after, c.tasks.set i ⟨job, next x.answer⟩⟩

namespace Run

variable {S : System σ κ α} {a b c : Crowd σ κ α} {T T' : Trace σ} {i : Nat} {x : Exchange σ}

/-! ### Runs in a row -/

/-- A run that goes on from where another one ended is one run. -/
theorem trans (h : S.Run a T b) (k : S.Run b T' c) : S.Run a (T ++ T') c := by
  induction k with
  | start => rwa [List.append_nil]
  | launch job _ ih => exact .launch job ih
  | step x _ task now answers ih =>
    rw [← List.append_assoc]
    exact .step x ih task now answers

/-- **Splitting.** A run can be cut in front of each of its exchanges: the task was about to ask the
    question, and the run goes on behind the answer. -/
theorem split (h : S.Run a T c) (hx : (i, x) ∈ T) :
    ∃ (before after : Trace σ) (b : Crowd σ κ α) (job : κ) (next : x.effect.Answer → Program α),
      T = before ++ (i, x) :: after ∧ S.Run a before b ∧
      b.tasks[i]? = some ⟨job, .ask x.effect next⟩ ∧ x.before = b.shared ∧ S.Answers x ∧
      S.Run ⟨x.after, b.tasks.set i ⟨job, next x.answer⟩⟩ after c := by
  induction h with
  | start => simp at hx
  | launch job _ ih =>
    obtain ⟨before, after, b, k, next, rfl, hb, task, now, answers, hc⟩ := ih hx
    exact ⟨before, after, b, k, next, rfl, hb, task, now, answers, .launch job hc⟩
  | @step _ _ j _ y _ run task now answers ih =>
    rcases List.mem_append.1 hx with hx | hx
    · -- an earlier exchange: the last step comes behind what followed it
      obtain ⟨before, after, b, k, next, rfl, hb, task', now', answers', hc⟩ := ih hx
      refine ⟨before, after ++ [(j, y)], b, k, next, by simp, hb, task', now', answers', ?_⟩
      exact .step y hc task now answers
    · -- the exchange of the last step: nothing follows
      obtain ⟨rfl, rfl⟩ : _ = _ ∧ _ = _ := by simpa using hx
      exact ⟨_, [], _, _, _, rfl, run, task, now, answers, .start⟩

/-- A run can be cut in front of each of its exchanges into two runs. -/
theorem cut (h : S.Run a T c) (hx : (i, x) ∈ T) :
    ∃ (before after : Trace σ) (b : Crowd σ κ α), T = before ++ (i, x) :: after ∧
      S.Run a before b ∧ b.shared = x.before ∧ S.Run b ((i, x) :: after) c := by
  obtain ⟨before, after, b, job, next, hT, hb, task, now, answers, run⟩ := h.split hx
  exact ⟨before, after, b, hT, hb, now.symm, (Run.start.step x task now answers).trans run⟩

/-- **Halves.** A run can be parted wherever its exchanges are. -/
theorem parts {T₁ T₂ : Trace σ} (h : S.Run a T c) (hT : T = T₁ ++ T₂) :
    ∃ b, S.Run a T₁ b ∧ S.Run b T₂ c := by
  induction h generalizing T₂ with
  | start =>
    obtain ⟨rfl, rfl⟩ := List.append_eq_nil_iff.1 hT.symm
    exact ⟨_, .start, .start⟩
  | launch job _ ih =>
    obtain ⟨b, hb, hc⟩ := ih hT
    exact ⟨b, hb, .launch job hc⟩
  | step x run task now answers ih =>
    -- the last exchange is one of the second half, unless there is none in it
    rcases List.eq_nil_or_concat T₂ with rfl | ⟨T₂, y, rfl⟩
    · rw [List.append_nil] at hT
      exact ⟨_, hT ▸ run.step x task now answers, .start⟩
    · rw [List.concat_eq_append, ← List.append_assoc] at hT
      obtain ⟨hT, hy⟩ := List.append_inj' hT rfl
      obtain ⟨b, hb, hc⟩ := ih hT
      rw [List.concat_eq_append, ← List.singleton_inj.1 hy]
      exact ⟨b, hb, .step x hc task now answers⟩

/-- Taking jobs on does not touch the shared state. -/
theorem shared_of_nil (h : S.Run a T c) (hT : T = []) : c.shared = a.shared := by
  induction h with
  | start => rfl
  | launch _ _ ih => exact ih hT
  | step => simp at hT

/-- What a run of one exchange does to the shared state. -/
theorem shared_of_single (h : S.Run a [(i, x)] c) :
    x.before = a.shared ∧ S.Answers x ∧ c.shared = x.after := by
  generalize hT : [(i, x)] = T at h
  induction h with
  | start => cases hT
  | launch _ _ ih => exact ih hT
  | @step T _ j _ y _ run _ now answers _ =>
    have hparts : [] ++ [(i, x)] = T ++ [(j, y)] := hT
    obtain ⟨hnil, hy⟩ := List.append_inj' hparts rfl
    cases hy
    exact ⟨now.trans (run.shared_of_nil hnil.symm), answers, rfl⟩

/-! ### What a run keeps -/

/-- Each exchange of a run is one that the system can have. -/
theorem answers_of_mem (h : S.Run a T c) (hx : (i, x) ∈ T) : S.Answers x := by
  obtain ⟨_, _, _, _, _, _, _, _, _, answers, _⟩ := h.split hx
  exact answers

/-- What holds at the start and is kept by every exchange of the run holds at the end. -/
theorem along {P : σ → Prop} (h : S.Run a T c) (start : P a.shared)
    (step : ∀ i x, (i, x) ∈ T → S.Answers x → P x.before → P x.after) : P c.shared := by
  induction h with
  | start => exact start
  | launch _ _ ih => exact ih step
  | step x _ _ now answers ih =>
    have hbefore := ih fun i y hy => step i y (List.mem_append_left _ hy)
    rw [← now] at hbefore
    exact step _ x (List.mem_append_right _ List.mem_cons_self) answers hbefore

/-- **Turning points.** If something holds at the start and not at the end, an exchange has put an end to
    it. -/
theorem exists_turn {P : σ → Prop} (h : S.Run a T c) (start : P a.shared) (lost : ¬ P c.shared) :
    ∃ i x, (i, x) ∈ T ∧ S.Answers x ∧ P x.before ∧ ¬ P x.after := by
  refine Classical.byContradiction fun never => lost (h.along start fun i x hx answers hbefore => ?_)
  exact Classical.byContradiction fun hafter => never ⟨i, x, hx, answers, hbefore, hafter⟩

/-- **Invariants.** What holds at the start and is kept by every exchange holds at the end. -/
theorem invariant {P : σ → Prop} (h : S.Run a T c) (start : P a.shared)
    (step : ∀ x : Exchange σ, S.Answers x → P x.before → P x.after) : P c.shared :=
  h.along start fun _ x _ => step x

/-- An invariant holds around each exchange of a run. -/
theorem invariant_of_mem {P : σ → Prop} (h : S.Run a T c) (start : P a.shared)
    (step : ∀ x : Exchange σ, S.Answers x → P x.before → P x.after) (hx : (i, x) ∈ T) :
    P x.before ∧ P x.after := by
  obtain ⟨_, _, _, _, _, _, run, _, now, answers, _⟩ := h.split hx
  have hb : P x.before := now ▸ run.invariant start step
  exact ⟨hb, step x answers hb⟩

/-- **Stability.** What holds behind one exchange of a run and is kept by every later one holds at
    the end. -/
theorem stable {P : σ → Prop} (h : S.Run a T c) (hx : (i, x) ∈ T) (start : P x.after)
    (step : ∀ y : Exchange σ, S.Answers y → P y.before → P y.after) : P c.shared := by
  obtain ⟨_, _, _, _, _, _, _, _, _, _, run⟩ := h.split hx
  exact run.invariant start step

/-- **Once at most.** What can happen only before some state is reached, leads to that state, and is not
    undone by the rest of the run, does not happen twice in it. -/
theorem once {P : Exchange σ → Prop} {Q : σ → Prop} (h : S.Run a T c)
    (leads : ∀ i x, (i, x) ∈ T → P x → Q x.after) (stays : ∀ i x, (i, x) ∈ T → Q x.before → Q x.after)
    (excludes : ∀ i x, (i, x) ∈ T → Q x.before → ¬ P x) :
    T.Pairwise fun p q => ¬ (P p.2 ∧ P q.2) := by
  induction h with
  | start => exact .nil
  | launch _ _ ih => exact ih leads stays excludes
  | @step T c i _ x next run task now answers ih =>
    have hold {k : Nat} {y : Exchange σ} (hy : (k, y) ∈ T) : (k, y) ∈ T ++ [(i, x)] :=
      List.mem_append_left _ hy
    have hpairs := ih (fun k y hy => leads k y (hold hy)) (fun k y hy => stays k y (hold hy))
      fun k y hy => excludes k y (hold hy)
    refine List.pairwise_append.2 ⟨hpairs, List.pairwise_singleton _ _, ?_⟩
    rintro ⟨j, y⟩ hy _ hx ⟨hPy, hPx⟩
    obtain rfl := List.mem_singleton.1 hx
    -- behind the earlier exchange the state is reached, and it is still so in front of the last one
    obtain ⟨T₁, T₂, b, hT, -, -, hcut⟩ := run.cut hy
    obtain ⟨b', hfirst, hrest⟩ := hcut.parts (List.append_cons [] (j, y) T₂)
    have hQ : Q c.shared := by
      refine hrest.along ?_ fun k z hz _ => stays k z (hold ?_)
      · rw [hfirst.shared_of_single.2.2]
        exact leads j y (hold hy) hPy
      · rw [hT]
        exact List.mem_append_right _ (List.mem_cons_of_mem _ hz)
    exact excludes i x (List.mem_append_right _ List.mem_cons_self) (now ▸ hQ) hPx

/-! ### Tasks -/

/-- Tasks are never removed, and a job stays what it was. -/
theorem job_stays (h : S.Run a T c) {job : κ} (hi : a.job? i = some job) : c.job? i = some job := by
  induction h with
  | start => exact hi
  | launch k _ ih =>
    rw [Crowd.job?_launch, if_neg (Nat.ne_of_lt (Crowd.lt_length_of_job? ih)), ih]
  | step x _ task _ _ ih => rw [Crowd.job?_set task, ih]

/-- The task that an exchange belongs to. -/
theorem job_of_mem (h : S.Run a T c) (hx : (i, x) ∈ T) :
    ∃ (before after : Trace σ) (b : Crowd σ κ α) (job : κ) (next : x.effect.Answer → Program α),
      T = before ++ (i, x) :: after ∧ S.Run a before b ∧
      b.tasks[i]? = some ⟨job, .ask x.effect next⟩ ∧ c.job? i = some job := by
  obtain ⟨before, after, b, job, next, hT, hb, task, _, _, run⟩ := h.split hx
  have hi := (List.getElem?_eq_some_iff.1 task).1
  exact ⟨before, after, b, job, next, hT, hb, task,
    run.job_stays (Crowd.job?_of_task (List.getElem?_set_self hi))⟩

end Run

end System

end Turnstile
