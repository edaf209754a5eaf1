import Turnstile.Proofs.Transaction.Closing

namespace Turnstile

/-!
# A transaction ends once

Any number of calls and the watchdog race for the end of one transaction.

* `EndsOnce` says what then holds at every point of a run: the life cycle is left at most once, the
  database is called at most once and for the winner, and everyone else is told why.
* `Unclaimed` and `WonBy` are the two shapes of a reachable point: nobody has claimed the end, or one task
  has won it and the phases of all the others are known.
* `shape_of_run` is the induction over the run, and `endsOnce_of_run` reads the result off it.
-/

variable {α : Type}

/-! ### What is seen of a run -/

/-- The calls of the database that end the transaction, each with its caller. -/
def databaseCalls (T : Trace TransactionState) : List (Nat × Operation) :=
  T.filterMap fun
    | (_, ⟨.backend .ping, _, _, _⟩) => none
    | (i, ⟨.backend operation, _, _, _⟩) => some (i, operation)
    | _ => none

/-- The alarms, each with who raised it. -/
def alarms (T : Trace TransactionState) : List (Nat × Request × String) :=
  T.filterMap fun
    | (i, ⟨.alert r message, _, _, _⟩) => some (i, r, message)
    | _ => none

/-- A task has claimed the end. -/
def Claimed (T : Trace TransactionState) (i : Nat) : Prop :=
  ∃ ending operation answer before after, (i, ⟨.claim ending operation, answer, before, after⟩) ∈ T

/-- A task has claimed the end and was granted it. -/
def Granted (T : Trace TransactionState) (i : Nat) : Prop :=
  ∃ ending operation before after, (i, ⟨.claim ending operation, .ok (), before, after⟩) ∈ T

/-- How far a task has come. -/
def phase (T : Trace TransactionState) (i : Nat) : Phase := (T.own i).foldl Phase.note .claiming

/-- **The end of a transaction**, as it stands at a point of a run. -/
structure EndsOnce (T : Trace TransactionState)
    (c : Crowd TransactionState (Closing α) (Verdict α)) : Prop where
  /-- Once the life cycle has been left, neither it nor the time of the end ever changes. -/
  final : ∀ i x, (i, x) ∈ T → x.before.isOpen = false → x.after = x.before ∧ c.shared = x.before
  /-- It has been left exactly when a claim has been granted. -/
  ended : c.shared.isOpen = false ↔ ∃ i, Granted T i
  /-- The time of the end is set exactly when the transaction has ended. -/
  endedAt : c.shared.endedAt.isSome ↔ c.shared.isOpen = false
  /-- The database is called at most once. -/
  calls_le : (databaseCalls T).length ≤ 1
  /-- It has been called exactly once when somebody has claimed the end and everybody who has is
      through. -/
  calls_eq : (∃ i, Claimed T i) → (∀ i, Claimed T i → ∃ k v, c.Finished i k v) →
    (databaseCalls T).length = 1
  /-- The one claim that was granted decides the life cycle. -/
  winner : ∀ i, Granted T i → (∀ j, Granted T j → j = i) ∧
    ∃ k, c.job? i = some k ∧ c.shared.lifecycle = .ended k.ending
  /-- The call of the database is the winner's, for its own ending, and behind its alarm. -/
  call : ∀ i operation, (i, operation) ∈ databaseCalls T → Granted T i ∧
    ∃ k, c.job? i = some k ∧ operation = k.ending.operation ∧ alarms T = k.alarms.map (i, ·)
  /-- Alarms are the winner's, too. -/
  alarm : ∀ i a, (i, a) ∈ alarms T → Granted T i ∧ alarms T = [(i, a)] ∧
    ∃ k, c.job? i = some k ∧ k.alarms = [a]
  /-- The winner comes back with what the database answered to its call. -/
  success : ∀ i k v, c.Finished i k v → Granted T i →
    ∃ answer before after, (i, ⟨.backend k.ending.operation, answer, before, after⟩) ∈ T ∧
      v = k.verdict (answer.mapError (.backend k.ending.operation))
  /-- Everyone else comes back with the news that the transaction has ended, for its own operation and
      with the cause that the winner left. -/
  failure : ∀ i k v, c.Finished i k v → ¬ Granted T i →
    ∃ winner job, Granted T winner ∧ c.job? winner = some job ∧
      v = k.verdict (.error (.alreadyEnded k.ending.operation job.ending.cause?))

/-! ### Exchanges of little interest -/

/-- The exchange is neither a claim nor an alarm nor a call of the database. -/
def Exchange.Silent (x : Exchange TransactionState) : Prop :=
  match x.effect with
  | .claim .. | .alert .. | .backend _ => False
  | _ => True

section Snoc

variable {T : Trace TransactionState} {i j : Nat} {x : Exchange TransactionState}

theorem phase_snoc_self : phase (T ++ [(i, x)]) i = (phase T i).note x := by
  simp only [phase, Trace.own_snoc_self, List.foldl_append, List.foldl_cons, List.foldl_nil]

theorem phase_snoc_ne (h : i ≠ j) : phase (T ++ [(i, x)]) j = phase T j := by
  rw [phase, Trace.own_snoc_ne h, phase]

theorem databaseCalls_snoc :
    databaseCalls (T ++ [(i, x)]) = databaseCalls T ++ databaseCalls [(i, x)] :=
  List.filterMap_append

theorem alarms_snoc : alarms (T ++ [(i, x)]) = alarms T ++ alarms [(i, x)] :=
  List.filterMap_append

theorem granted_snoc : Granted (T ++ [(i, x)]) j ↔ Granted T j ∨ Granted [(i, x)] j := by
  constructor
  · rintro ⟨ending, operation, before, after, h⟩
    rcases List.mem_append.1 h with h | h
    · exact .inl ⟨ending, operation, before, after, h⟩
    · exact .inr ⟨ending, operation, before, after, h⟩
  · rintro (⟨ending, operation, before, after, h⟩ | ⟨ending, operation, before, after, h⟩)
    · exact ⟨ending, operation, before, after, List.mem_append_left _ h⟩
    · exact ⟨ending, operation, before, after, List.mem_append_right _ h⟩

namespace Exchange.Silent

theorem note_eq (h : x.Silent) (p : Phase) : p.note x = p := by
  obtain ⟨e, _, _, _⟩ := x
  cases e <;> first | rfl | exact h.elim

theorem phase_snoc (h : x.Silent) : phase (T ++ [(i, x)]) j = phase T j := by
  by_cases hj : i = j
  · subst hj
    rw [phase_snoc_self, h.note_eq]
  · exact phase_snoc_ne hj

theorem databaseCalls_snoc (h : x.Silent) : databaseCalls (T ++ [(i, x)]) = databaseCalls T := by
  have hx : databaseCalls [(i, x)] = [] := by
    obtain ⟨e, _, _, _⟩ := x
    cases e <;> first | rfl | exact h.elim
  rw [Turnstile.databaseCalls_snoc, hx, List.append_nil]

theorem alarms_snoc (h : x.Silent) : alarms (T ++ [(i, x)]) = alarms T := by
  have hx : alarms [(i, x)] = [] := by
    obtain ⟨e, _, _, _⟩ := x
    cases e <;> first | rfl | exact h.elim
  rw [Turnstile.alarms_snoc, hx, List.append_nil]

theorem granted_snoc (h : x.Silent) : Granted (T ++ [(i, x)]) j ↔ Granted T j := by
  have hx : ¬ Granted [(i, x)] j := by
    rintro ⟨ending, operation, before, after, hj⟩
    obtain ⟨-, rfl⟩ : _ ∧ _ = x := by simpa using hj
    exact h
  rw [Turnstile.granted_snoc, or_iff_left hx]

end Exchange.Silent

end Snoc

/-! ### The shapes of a reachable point -/

/-- Nobody has claimed the end yet. -/
structure Unclaimed (T : Trace TransactionState)
    (c : Crowd TransactionState (Closing α) (Verdict α)) : Prop where
  shared : c.shared = .new
  phase : ∀ i, phase T i = .claiming
  calls : databaseCalls T = []
  alarms : alarms T = []
  granted : ∀ i, ¬ Granted T i

/-- What the winner has done so far: it has not called the database yet, whether or not its alarms are
    raised, or it has, with all its alarms raised. -/
def Carried (T : Trace TransactionState) (winner : Nat) (job : Closing α) : Prop :=
  (∃ l, phase T winner = .won l ∧ databaseCalls T = [] ∧ alarms T = l.map (winner, ·) ∧
    (l = [] ∨ l = job.alarms)) ∨
  ∃ result, phase T winner = .called job.alarms result ∧
    databaseCalls T = [(winner, job.ending.operation)] ∧ alarms T = job.alarms.map (winner, ·) ∧
    ∃ before after, (winner, ⟨.backend job.ending.operation, result, before, after⟩) ∈ T

/-- One task has won the end, at an instant. -/
structure WonBy (winner : Nat) (job : Closing α) (now : Instant) (T : Trace TransactionState)
    (c : Crowd TransactionState (Closing α) (Verdict α)) : Prop where
  task : c.job? winner = some job
  shared : c.shared = ⟨.ended job.ending, some now⟩
  granted : ∀ i, Granted T i ↔ i = winner
  carried : Carried T winner job
  others : ∀ i k, c.job? i = some k → i ≠ winner → phase T i = .claiming ∨
    phase T i = .lost (.alreadyEnded k.ending.operation job.ending.cause?)

/-- The two shapes of a reachable point. -/
def Shape (T : Trace TransactionState) (c : Crowd TransactionState (Closing α) (Verdict α)) : Prop :=
  Unclaimed T c ∨ ∃ winner job now, WonBy winner job now T c

section Step

variable {T : Trace TransactionState} {c : Crowd TransactionState (Closing α) (Verdict α)}
  {i winner : Nat} {k job : Closing α} {now : Instant} {x : Exchange TransactionState}
  {next : x.effect.Answer → Program (Verdict α)} {p rest : Program (Verdict α)}

/-- A job that is taken on changes neither shape: it has not come anywhere yet. -/
theorem Shape.launch (h : Shape T c) (run : (closings α).Run ⟨.new, []⟩ T c) (k : Closing α) :
    Shape T { c with tasks := c.tasks ++ [⟨k, k.program⟩] } := by
  rcases h with h | ⟨winner, job, now, h⟩
  · exact .inl ⟨h.shared, h.phase, h.calls, h.alarms, h.granted⟩
  · refine .inr ⟨winner, job, now, ?_, h.shared, h.granted, h.carried, ?_⟩
    · rw [Crowd.job?_launch, if_neg (Nat.ne_of_lt (Crowd.lt_length_of_job? h.task)), h.task]
    · intro i k' hi hne
      rw [Crowd.job?_launch] at hi
      split at hi
      · next hlast =>
        -- the task that was launched has not asked anything
        left
        rw [phase, run.own_eq_nil (Nat.le_of_eq hlast.symm)]
        rfl
      · exact h.others i k' hi hne

/-- A silent exchange changes neither shape. -/
theorem Shape.silent (h : Shape T c) (task : c.tasks[i]? = some ⟨k, .ask x.effect next⟩)
    (hx : x.Silent) (hafter : x.after = c.shared) :
    Shape (T ++ [(i, x)]) ⟨x.after, c.tasks.set i ⟨k, rest⟩⟩ := by
  rw [hafter]
  rcases h with h | ⟨winner, job, now, h⟩
  · refine .inl ⟨h.shared, ?_, ?_, ?_, ?_⟩
    · intro j
      rw [hx.phase_snoc, h.phase]
    · rw [hx.databaseCalls_snoc, h.calls]
    · rw [hx.alarms_snoc, h.alarms]
    · intro j
      rw [hx.granted_snoc]
      exact h.granted j
  · refine .inr ⟨winner, job, now, ?_, h.shared, ?_, ?_, ?_⟩
    · rw [Crowd.job?_set task, h.task]
    · intro j
      rw [hx.granted_snoc]
      exact h.granted j
    · rw [Carried, hx.phase_snoc, hx.databaseCalls_snoc, hx.alarms_snoc]
      rcases h.carried with hwon | ⟨result, hphase, hcalls, halarms, before, after, hmem⟩
      · exact .inl hwon
      · exact .inr ⟨result, hphase, hcalls, halarms, before, after, List.mem_append_left _ hmem⟩
    · intro j k' hj hne
      rw [Crowd.job?_set task] at hj
      rw [hx.phase_snoc]
      exact h.others j k' hj hne

/-- The winner is behind its claim. -/
theorem Carried.phase_ne_claiming (h : Carried T winner job) : phase T winner ≠ .claiming := by
  rcases h with ⟨l, hphase, -⟩ | ⟨result, hphase, -⟩ <;> rw [hphase] <;> intro h <;> cases h

/-- A claim decides an open transaction, and changes nothing of one that has ended. -/
theorem Shape.claim (h : Shape T c) (task : c.tasks[i]? = some ⟨k, p⟩)
    (hp : phase T i = .claiming) {answer : Except TransactionFailure Unit}
    {after : TransactionState}
    (answers : c.shared.claim k.ending k.ending.operation now = (answer, after)) :
    Shape (T ++ [(i, ⟨.claim k.ending k.ending.operation, answer, c.shared, after⟩)])
      ⟨after, c.tasks.set i ⟨k, rest⟩⟩ := by
  rcases h with h | ⟨winner, job, time, h⟩
  · -- the transaction is open: the claim is granted, and this task has won
    rw [h.shared] at answers ⊢
    obtain ⟨rfl, rfl⟩ := Prod.mk.inj answers
    refine .inr ⟨i, k, now, ?_, rfl, ?_, ?_, ?_⟩
    · rw [Crowd.job?_set task, Crowd.job?_of_task task]
    · intro j
      rw [granted_snoc, or_iff_right (h.granted j)]
      simp [Granted]
    · left
      refine ⟨[], ?_, ?_, ?_, .inl rfl⟩
      · rw [phase_snoc_self]
        rfl
      · rw [databaseCalls_snoc, h.calls]
        rfl
      · rw [alarms_snoc, h.alarms]
        rfl
    · intro j k' _ hne
      rw [phase_snoc_ne (Ne.symm hne)]
      exact .inl (h.phase j)
  · -- it has ended: the claim is denied with the cause that the winner left
    rw [h.shared] at answers ⊢
    obtain ⟨rfl, rfl⟩ := Prod.mk.inj answers
    have hne : i ≠ winner := by
      rintro rfl
      exact h.carried.phase_ne_claiming hp
    refine .inr ⟨winner, job, time, ?_, rfl, ?_, ?_, ?_⟩
    · rw [Crowd.job?_set task, h.task]
    · intro j
      rw [granted_snoc, or_iff_left (by simp [Granted])]
      exact h.granted j
    · rw [Carried, phase_snoc_ne hne, databaseCalls_snoc, alarms_snoc]
      rcases h.carried with ⟨l, hphase, hcalls, halarms, hl⟩ |
        ⟨result, hphase, hcalls, halarms, before, after, hmem⟩
      · exact .inl ⟨l, hphase, by rw [hcalls]; rfl, by rw [halarms]; exact List.append_nil _, hl⟩
      · refine .inr ⟨result, hphase, by rw [hcalls]; rfl, ?_, before, after, ?_⟩
        · rw [halarms]
          exact List.append_nil _
        · exact List.mem_append_left _ hmem
    · intro j k' hj hj'
      rw [Crowd.job?_set task] at hj
      by_cases hij : i = j
      · subst hij
        obtain rfl : k = k' := Option.some.inj ((Crowd.job?_of_task task).symm.trans hj)
        right
        rw [phase_snoc_self]
        rfl
      · rw [phase_snoc_ne hij]
        exact h.others j k' hj hj'

/-- Whoever has had its claim granted is the winner. -/
theorem Shape.wonBy_of_phase (h : Shape T c) (hi : c.job? i = some k) (l : List (Request × String))
    (hp : phase T i = .won l) : ∃ now, WonBy i k now T c := by
  rcases h with h | ⟨winner, job, now, h⟩
  · rw [h.phase] at hp
    cases hp
  · by_cases hw : i = winner
    · subst hw
      obtain rfl : job = k := Option.some.inj (h.task.symm.trans hi)
      exact ⟨now, h⟩
    · rcases h.others i k hi hw with hp' | hp' <;> rw [hp'] at hp <;> cases hp

/-- The winner goes on: nobody else is concerned. -/
theorem WonBy.onward (h : WonBy i k now T c) (task : c.tasks[i]? = some ⟨k, p⟩)
    (quiet : ∀ j, ¬ Granted [(i, x)] j) (carried : Carried (T ++ [(i, x)]) i k) :
    WonBy i k now (T ++ [(i, x)]) ⟨c.shared, c.tasks.set i ⟨k, rest⟩⟩ where
  task := by rw [Crowd.job?_set task, h.task]
  shared := h.shared
  granted := by
    intro j
    rw [granted_snoc, or_iff_left (quiet j)]
    exact h.granted j
  carried := carried
  others := by
    intro j k' hj hne
    rw [Crowd.job?_set task] at hj
    rw [phase_snoc_ne (Ne.symm hne)]
    exact h.others j k' hj hne

/-- The winner raises its alarm. -/
theorem Shape.alert (h : Shape T c) (task : c.tasks[i]? = some ⟨k, p⟩) {r : Request}
    {message : String} {answer : Unit} (hp : phase T i = .won []) (hk : k.alarms = [(r, message)]) :
    Shape (T ++ [(i, ⟨.alert r message, answer, c.shared, c.shared⟩)])
      ⟨c.shared, c.tasks.set i ⟨k, rest⟩⟩ := by
  obtain ⟨now, h⟩ := h.wonBy_of_phase (Crowd.job?_of_task task) [] hp
  refine .inr ⟨i, k, now, h.onward task (by simp [Granted]) ?_⟩
  rcases h.carried with ⟨l, hphase, hcalls, halarms, -⟩ | ⟨result, hphase, -⟩
  · obtain rfl : l = [] := by
      rw [hphase] at hp
      exact Phase.won.inj hp
    refine .inl ⟨[(r, message)], ?_, ?_, ?_, .inr hk.symm⟩
    · rw [phase_snoc_self, hphase]
      rfl
    · rw [databaseCalls_snoc, hcalls]
      rfl
    · rw [alarms_snoc, halarms]
      rfl
  · rw [hphase] at hp
    cases hp

/-- The winner calls the database. -/
theorem Shape.backend (h : Shape T c) (task : c.tasks[i]? = some ⟨k, p⟩)
    {answer : Except RepositoryFailure Unit} (hp : phase T i = .won k.alarms) :
    Shape (T ++ [(i, ⟨.backend k.ending.operation, answer, c.shared, c.shared⟩)])
      ⟨c.shared, c.tasks.set i ⟨k, rest⟩⟩ := by
  obtain ⟨now, h⟩ := h.wonBy_of_phase (Crowd.job?_of_task task) k.alarms hp
  -- no ending is a probe, so the call is noted
  have hnote (p : Phase) :
      p.note ⟨.backend k.ending.operation, answer, c.shared, c.shared⟩ = .called p.alarms answer := by
    cases k.ending <;> rfl
  have hcall : databaseCalls [(i, ⟨.backend k.ending.operation, answer, c.shared, c.shared⟩)]
      = [(i, k.ending.operation)] := by
    cases k.ending <;> rfl
  refine .inr ⟨i, k, now, h.onward task (by simp [Granted]) ?_⟩
  rcases h.carried with ⟨l, hphase, hcalls, halarms, -⟩ | ⟨result, hphase, -⟩
  · obtain rfl : l = k.alarms := by
      rw [hphase] at hp
      exact Phase.won.inj hp
    refine .inr ⟨answer, ?_, ?_, ?_, c.shared, c.shared, ?_⟩
    · rw [phase_snoc_self, hphase, hnote]
      rfl
    · rw [databaseCalls_snoc, hcalls, hcall]
      rfl
    · rw [alarms_snoc, halarms]
      exact List.append_nil _
    · simp
  · rw [hphase] at hp
    cases hp

end Step

/-- **Every reachable point has one of the two shapes.** -/
theorem shape_of_run {T : Trace TransactionState}
    {c : Crowd TransactionState (Closing α) (Verdict α)}
    (run : (closings α).Run ⟨.new, []⟩ T c) : Shape T c := by
  induction run with
  | start =>
    refine .inl ⟨rfl, fun _ => rfl, rfl, rfl, ?_⟩
    rintro i ⟨_, _, _, _, h⟩
    cases h
  | launch k run ih => exact ih.launch run k
  | @step T c i k x next run task now answers ih =>
    -- the protocol leaves only the next question of the task's own phase
    have hp : k.Permits (phase T i) x.effect :=
      (run.passes task k.passes x.answer x.before x.after).1
    obtain ⟨e, answer, before, after⟩ := x
    obtain rfl : before = c.shared := now
    cases e with
    | claim ending operation =>
      obtain ⟨hclaiming, rfl, rfl⟩ := hp
      obtain ⟨now, hclaim⟩ := answers
      exact ih.claim task hclaiming hclaim
    | alert r message =>
      obtain rfl : after = c.shared := answers
      exact ih.alert task hp.1 hp.2
    | backend operation =>
      obtain ⟨hwon, rfl⟩ := hp
      obtain rfl : after = c.shared := answers
      exact ih.backend task hwon
    | _ => exact ih.silent task trivial answers

/-- What has ended stays as it is. -/
theorem TransactionState.Answers.eq_of_ended {t t' : TransactionState} {e : Effect}
    {answer : e.Answer} (h : t.Answers e answer t') (ended : t.isOpen = false) : t' = t := by
  obtain ⟨lifecycle, time⟩ := t
  cases lifecycle with
  | isOpen => cases ended
  | ended ending =>
    cases e with
    | claim ending' operation =>
      obtain ⟨now, h⟩ := h
      exact (Prod.mk.inj h).2.symm
    | _ => exact h

section Read

variable {T : Trace TransactionState} {c : Crowd TransactionState (Closing α) (Verdict α)}
  {i winner : Nat} {k job : Closing α} {now : Instant} {v : Verdict α}

/-- A task that has come back has been through its protocol. -/
theorem returns_of_finished (run : (closings α).Run ⟨.new, []⟩ T c) (hi : c.Finished i k v) :
    k.Returns (phase T i) v :=
  run.post_of_finished hi k.passes

/-- A task that has come back has claimed the end. -/
theorem phase_ne_claiming_of_finished (run : (closings α).Run ⟨.new, []⟩ T c)
    (hi : c.Finished i k v) : phase T i ≠ .claiming := by
  obtain ⟨result, hresult, -⟩ := returns_of_finished run hi
  intro hphase
  rw [hphase] at hresult
  cases hresult

/-- Once the life cycle has been left, it stays as it is for the rest of the run. -/
theorem shared_eq_of_ended (run : (closings α).Run ⟨.new, []⟩ T c)
    {x : Exchange TransactionState} (hx : (i, x) ∈ T) (ended : x.before.isOpen = false) :
    x.after = x.before ∧ c.shared = x.before := by
  have hafter := (run.answers_of_mem hx).eq_of_ended ended
  have hshared : c.shared = x.before := by
    refine run.stable (P := (· = x.before)) hx hafter ?_
    intro y hy hbefore
    rw [hy.eq_of_ended (hbefore ▸ ended), hbefore]
  exact ⟨hafter, hshared⟩

theorem Unclaimed.endsOnce (h : Unclaimed T c) (run : (closings α).Run ⟨.new, []⟩ T c) :
    EndsOnce T c where
  final i x := shared_eq_of_ended run
  ended := by simp [h.shared, h.granted, TransactionState.new, TransactionState.isOpen]
  endedAt := by simp [h.shared, TransactionState.new, TransactionState.isOpen]
  calls_le := by simp [h.calls]
  calls_eq := by
    rintro ⟨i, hi⟩ through
    obtain ⟨k, v, hfinished⟩ := through i hi
    exact absurd (h.phase i) (phase_ne_claiming_of_finished run hfinished)
  winner i hi := absurd hi (h.granted i)
  call i operation hmem := by simp [h.calls] at hmem
  alarm i a hmem := by simp [h.alarms] at hmem
  success i k v _ hi := absurd hi (h.granted i)
  failure i k v hi _ := absurd (h.phase i) (phase_ne_claiming_of_finished run hi)

/-- The winner's call, from the winner's return. -/
theorem WonBy.called_of_finished (h : WonBy winner job now T c)
    (run : (closings α).Run ⟨.new, []⟩ T c) (hi : c.Finished winner k v) :
    k = job ∧ databaseCalls T = [(winner, job.ending.operation)] ∧
    ∃ answer before after, (winner, ⟨.backend job.ending.operation, answer, before, after⟩) ∈ T ∧
      v = job.verdict (answer.mapError (.backend job.ending.operation)) := by
  obtain rfl : k = job := Option.some.inj ((Crowd.job?_of_task hi).symm.trans h.task)
  obtain ⟨result, hresult, hv⟩ := returns_of_finished run hi
  rcases h.carried with ⟨l, hphase, -⟩ | ⟨answer, hphase, hcalls, -, before, after, hmem⟩
  · rw [hphase] at hresult
    cases hresult
  · refine ⟨rfl, hcalls, answer, before, after, hmem, ?_⟩
    rw [hphase] at hresult
    rcases answer with f | ⟨⟩ <;> cases hresult <;> exact hv

theorem WonBy.endsOnce (h : WonBy winner job now T c) (run : (closings α).Run ⟨.new, []⟩ T c) :
    EndsOnce T c where
  final i x := shared_eq_of_ended run
  ended := by simp [h.shared, h.granted, TransactionState.isOpen]
  endedAt := by simp [h.shared, TransactionState.isOpen]
  calls_le := by
    rcases h.carried with ⟨l, -, hcalls, -⟩ | ⟨answer, -, hcalls, -⟩ <;> simp [hcalls]
  calls_eq := by
    intro _ through
    -- the winner is through, and does not come back before its call
    obtain ⟨ending, operation, before, after, hclaim⟩ := (h.granted winner).2 rfl
    obtain ⟨k, v, hi⟩ := through winner ⟨ending, operation, .ok (), before, after, hclaim⟩
    rw [(h.called_of_finished run hi).2.1, List.length_singleton]
  winner := by
    intro i hi
    obtain rfl := (h.granted i).1 hi
    exact ⟨fun j hj => (h.granted j).1 hj, job, h.task, by rw [h.shared]⟩
  call := by
    intro i operation hmem
    rcases h.carried with ⟨l, -, hcalls, -⟩ | ⟨answer, -, hcalls, halarms, -⟩
    · simp [hcalls] at hmem
    · obtain ⟨rfl, rfl⟩ : i = winner ∧ operation = job.ending.operation := by
        simpa [hcalls] using hmem
      exact ⟨(h.granted i).2 rfl, job, h.task, rfl, halarms⟩
  alarm := by
    intro i a hmem
    have halarms : alarms T = job.alarms.map (winner, ·) := by
      rcases h.carried with ⟨l, -, -, halarms, rfl | rfl⟩ | ⟨answer, -, -, halarms, -⟩
      · -- nothing has been raised yet
        simp [halarms] at hmem
      · exact halarms
      · exact halarms
    rw [halarms] at hmem ⊢
    cases job with
    | expire r timeout =>
      obtain ⟨rfl, rfl⟩ := Prod.mk.inj (List.mem_singleton.1 hmem)
      exact ⟨(h.granted i).2 rfl, rfl, _, h.task, rfl⟩
    | _ => cases hmem
  success := by
    intro i k v hi hgranted
    obtain rfl := (h.granted i).1 hgranted
    obtain ⟨rfl, -, hcall⟩ := h.called_of_finished run hi
    exact hcall
  failure := by
    intro i k v hi hgranted
    refine ⟨winner, job, (h.granted winner).2 rfl, h.task, ?_⟩
    obtain ⟨result, hresult, hv⟩ := returns_of_finished run hi
    have hne : i ≠ winner := fun hw => hgranted ((h.granted i).2 hw)
    -- a loser has claimed and was told the winner's cause
    rcases h.others i k (Crowd.job?_of_task hi) hne with hphase | hphase
    · exact absurd hphase (phase_ne_claiming_of_finished run hi)
    · rw [hphase] at hresult
      cases hresult
      exact hv

end Read

/-- **A transaction ends once**, whichever calls are made on it and in whatever order their steps and
    those of the watchdog follow each other. -/
theorem endsOnce_of_run {T : Trace TransactionState}
    {c : Crowd TransactionState (Closing α) (Verdict α)}
    (run : (closings α).Run ⟨.new, []⟩ T c) : EndsOnce T c := by
  rcases shape_of_run run with h | ⟨winner, job, now, h⟩
  · exact h.endsOnce run
  · exact h.endsOnce run

/-- A commit that is overtaken by the watchdog. -/
theorem endsOnce_overtaken_commit :
    ∃ (T : Trace TransactionState) (c : Crowd TransactionState (Closing Unit) (Verdict Unit)),
      (closings Unit).Run ⟨.new, []⟩ T c ∧ EndsOnce T c ∧ databaseCalls T = [(1, .rollback)] ∧
      c.Finished 0 .commit
        (.ended (.error (.alreadyEnded .commit (some (.transaction (.timeout (.ofSeconds 30))))))) := by
  -- the watchdog claims first; the commit is denied before the database is called
  have opened : (closings Unit).Run ⟨.new, []⟩ [] ⟨.new, []⟩ := .start
  have launched := (opened.launch .commit).launch (.expire (.new "r" .epoch) (.ofSeconds 30))
  have claimed := launched.step (i := 1)
    ⟨.claim (.rolledBack (some (.transaction (.timeout (.ofSeconds 30))))) .rollback, .ok (), _, _⟩
    rfl rfl ⟨.epoch, rfl⟩
  have denied := claimed.step (i := 0)
    ⟨.claim .committed .commit, .error _, _, _⟩ rfl rfl ⟨.epoch, rfl⟩
  have stopped := denied.step (i := 1)
    ⟨.disarm, (), _, _⟩ rfl rfl rfl
  have alerted := stopped.step (i := 1)
    ⟨.alert _ _, (), _, _⟩ rfl rfl rfl
  have called := alerted.step (i := 1)
    ⟨.backend .rollback, .ok (), _, _⟩ rfl rfl rfl
  exact ⟨_, _, called, endsOnce_of_run called, rfl, rfl⟩

end Turnstile
