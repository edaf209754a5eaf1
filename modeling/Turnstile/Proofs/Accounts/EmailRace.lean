import Turnstile.Proofs.Accounts.SignUp
import Turnstile.Proofs.Service.Undisturbed
import Turnstile.Proofs.Store.Emails

namespace Turnstile.Accounts

open Credential (Hasher)

/-!
# Sign-ups that race for an address

Any operations of the service run at once on one store, starting from an empty one.

* `EmailsApart` says what then holds of addresses: no two live users ever share one; a sign-up that finds
  its address taken when it comes to insert is told so by the database and has written nothing; and of
  sign-ups that race for a free address, exactly one gets it.
* `Contest` is such a race.
* `Standing` is how such a race stands at a point: `Standing.step` is its step, `standing_of_run` the
  induction.
* `emails_apart` is the proof.
-/

/-! ### What is claimed -/

/-- The failure of an insertion that claims an address in use. -/
def emailInUse : ServiceFailure :=
  .repository createContext (.uniqueViolation "user repo create" (some "uq_users_email"))

/-- Sign-ups that race for an address, from one point of a run to a later one. -/
structure Contest (h : Hasher) (email : String) (contestants : List Nat) (T₀ : Trace Store)
    (c₀ : Crowd Store (Request × Job) (Except ServiceFailure Value)) (T₁ : Trace Store)
    (c : Crowd Store (Request × Job) (Except ServiceFailure Value)) : Prop where
  /-- There is at least one. -/
  some : contestants ≠ []
  /-- The address is free at first. -/
  free : c₀.shared.emailHolder? email = none
  /-- Nobody has done anything before the start. -/
  fresh : ∀ i ∈ contestants, ∀ x, (i, x) ∉ T₀
  /-- Each signs up with a valid draft for the address, and hashing does not fail. -/
  valid : ∀ i ∈ contestants, ∃ r d fields, c.job? i = .some (r, .signUp (.some d)) ∧
    check d = .ok fields ∧ fields.email = .some email ∧
    ∀ password, fields.password = .some password → ∀ salt, ∃ hash, h.create salt password = .ok hash
  /-- Their calls reach the store. -/
  served : ∀ i ∈ contestants, ∀ x, (i, x) ∈ T₁ → x.Served
  /-- Each has come back. -/
  back : ∀ i ∈ contestants, ∃ k v, c.Finished i k v
  /-- Nobody else changes who has the address. -/
  alone : ∀ i x, (i, x) ∈ T₁ → i ∉ contestants →
    x.after.emailHolder? email = x.before.emailHolder? email

/-- The address goes to one of the contestants; the others are told that it is in use, and have written
    nothing. -/
def OneWinner (email : String) (contestants : List Nat) (T : Trace Store)
    (c : Crowd Store (Request × Job) (Except ServiceFailure Value)) : Prop :=
  ∃ winner ∈ contestants, (∃ k u, c.Finished winner k (.ok (.user u)) ∧
      c.shared.emailHolder? email = some u.id) ∧
    ∀ i ∈ contestants, i ≠ winner →
      (∃ k, c.Finished i k (.error (.rejected .userEmailExists)) ∨
        c.Finished i k (.error emailInUse)) ∧
      ∀ x, (i, x) ∈ T → x.after = x.before

/-- **Addresses at a point of a run.** -/
structure EmailsApart (h : Hasher) (T : Trace Store)
    (c : Crowd Store (Request × Job) (Except ServiceFailure Value)) : Prop where
  /-- At most one live user has a given address. -/
  unique : ∀ email, (c.shared.users.filter (Store.hasEmail email)).length ≤ 1
  /-- A sign-up that comes to insert a user whose address is taken has come back with the violation, and
      has written nothing. -/
  refused : ∀ i r draft u answer before after, c.job? i = some (r, .signUp draft) →
    (i, ⟨.users (.create u), answer, before, after⟩) ∈ T →
    Store.Serves before (.users (.create u)) answer after →
    (∃ row ∈ before.users, row.isLive = true ∧ row.email = u.email) → u.email.isSome = true →
    c.Finished i (r, .signUp draft) (.error emailInUse) ∧ ∀ x, (i, x) ∈ T → x.after = x.before
  /-- A sign-up is rejected for its address only if a live user had exactly the canonical address when it
      was looked up. -/
  rejected : ∀ i r draft, c.Finished i (r, .signUp draft) (.error (.rejected .userEmailExists)) →
    ∃ d raw email u before after, draft = some d ∧ d.email = some raw ∧
      Field.email raw = .ok email ∧
      (i, ⟨.users (.getByEmail email), .ok (some u), before, after⟩) ∈ T ∧
      ∃ row ∈ before.users, row.isLive = true ∧ row.email = some email
  /-- Of sign-ups that race for a free address, exactly one gets it. -/
  race : ∀ T₀ c₀ T₁ email contestants, (service h).Run .nobody T₀ c₀ → (service h).Run c₀ T₁ c →
    Contest h email contestants T₀ c₀ T₁ c → OneWinner email contestants (T₀ ++ T₁) c

/-! ### One sign-up among others -/

section Task

variable {h : Hasher} {T : Trace Store}
  {c : Crowd Store (Request × Job) (Except ServiceFailure Value)} {i : Nat} {r : Request}
  {draft : Option UserDraft} {x : Exchange Store} {email : String}

theorem job_passes (h : Hasher) (r : Request) (draft : Option UserDraft) :
    ((service h).program (r, .signUp draft)).Passes (SignUp.watch draft)
      (fun past value => ∃ result, value = result.map Value.user ∧
        SignUp.Outcome h draft past result) [] := by
  show Service.Passes _ _ (create h r draft >>= fun u => pure (Value.user u)) _
  rw [Service.passes_map]
  exact (signUp_passes h r draft).mono fun past result houtcome => ⟨result, rfl, houtcome⟩

/-- What a sign-up that is over has been through. -/
theorem outcome_of_finished (run : (service h).Run .nobody T c) {value : Except ServiceFailure Value}
    (hi : c.Finished i (r, .signUp draft) value) :
    ∃ result, value = result.map Value.user ∧ SignUp.Outcome h draft (T.own i) result := by
  have hpost := run.post_of_finished hi (job_passes h r draft)
  rwa [SignUp.watch, Trace.noted_history] at hpost

/-- Each question of a sign-up belongs to its checked draft. -/
theorem asks_of_mem (run : (service h).Run .nobody T c) (hi : c.job? i = some (r, .signUp draft))
    (hx : (i, x) ∈ T) :
    ∃ d fields, draft = some d ∧ check d = .ok fields ∧ SignUp.Asks fields x.effect := by
  obtain ⟨_, _, _, -, hasks⟩ := run.demands hi (job_passes h r draft) hx
  exact hasks

/-- Behind an insertion that failed nothing is asked: the sign-up is over. -/
theorem finished_of_fails (run : (service h).Run .nobody T c)
    (hi : c.job? i = some (r, .signUp draft)) (hx : (i, x) ∈ T) {f : RepositoryFailure}
    (hf : SignUp.Fails x f) :
    c.Finished i (r, .signUp draft) (.error (.repository createContext f)) := by
  obtain ⟨⟨job, rest⟩, htask, hjob⟩ := Option.map_eq_some_iff.1 hi
  obtain rfl : job = (r, .signUp draft) := hjob
  have hrest := run.passes htask (job_passes h r draft)
  rw [SignUp.watch, Trace.noted_history] at hrest
  have hown : x ∈ T.own i := Trace.mem_own.2 hx
  cases rest with
  | ask e next =>
    -- behind a failed insertion, the watch demands that nothing more is asked
    exact absurd hf ((hrest (Surroundings.calm .epoch e) .empty .empty).1.1 x hown f)
  | done value =>
    obtain ⟨result, rfl, houtcome⟩ := hrest
    have heffect : ∃ v, x.effect = .users (.create v) := by
      obtain ⟨v, before, after, rfl⟩ := hf
      exact ⟨v, rfl⟩
    obtain ⟨v, hv⟩ := heffect
    cases houtcome with
    | invalid rejection fault other =>
      obtain ⟨d, fields, hd, hfields, -⟩ := asks_of_mem run hi hx
      exact absurd hfields (fault d fields hd)
    | taken d fields email u before after hd hfields hemail found quiet =>
      exact absurd hv (quiet x hown v)
    | unhashed d fields password salt e hd hfields hpassword refused quiet =>
      exact absurd hv (quiet x hown v)
    | lookupFailed email f' before after answer quiet => exact absurd hv (quiet x hown v)
    | insertFailed f' y hy failed only =>
      obtain rfl := only x hown v hv
      obtain ⟨_, _, _, rfl⟩ := hf
      obtain ⟨_, _, _, heq⟩ := failed
      cases heq
      exact htask
    | done u entered => exact absurd hf (entered.1 x hown f)

/-- A sign-up that has not inserted anybody has changed nothing. -/
theorem unchanged_of_not_inserts (run : (service h).Run .nobody T c)
    (hi : c.job? i = some (r, .signUp draft)) (hnone : ∀ x, (i, x) ∈ T → ∀ u, ¬ SignUp.Inserts x u)
    (hx : (i, x) ∈ T) : x.after = x.before := by
  obtain ⟨d, fields, -, -, hasks⟩ := asks_of_mem run hi hx
  have hanswers := run.answers_of_mem hx
  have hnot := hnone x hx
  obtain ⟨e, answer, before, after⟩ := x
  cases e with
  | users call =>
    cases call with
    | create v =>
      rcases answer with f | u
      · exact hanswers.eq_of_error
      · exact absurd ⟨v, before, after, rfl⟩ (hnot u)
    | getByEmail email =>
      rcases hanswers with hserved | hrefused
      · exact (Prod.mk.inj hserved).2.symm
      · exact hrefused.2
    | _ => exact hasks.elim
  | sessions call => exact hasks.elim
  | _ =>
    rcases hanswers with hserved | hrefused
    · exact hserved
    · exact hrefused.elim

end Task

/-! ### Races -/

section Race

variable {h : Hasher} {email : String} {contestants : List Nat} {T : Trace Store} {s : Store}
  {x : Exchange Store}

/-- The question is one of a sign-up for the address. -/
def AsksFor (email : String) : Effect → Prop
  | .users (.getByEmail email') => email' = email
  | .users (.create v) => v.email = some email ∧ v.isLive = true
  | .users _ | .sessions _ => False
  | _ => True

theorem asksFor_of_asks {fields : Fields} (hemail : fields.email = some email) {e : Effect}
    (h : SignUp.Asks fields e) : AsksFor email e := by
  cases e with
  | users call =>
    cases call with
    | getByEmail email' => exact (Option.some.inj (hemail.symm.trans h)).symm
    | create v => exact ⟨h.1.trans hemail, h.2⟩
    | _ => exact h
  | sessions call => exact h
  | _ => trivial

/-- Whoever learns from the exchange that the address is taken, or gets it, goes no further. -/
def Decides (x : Exchange Store) : Prop :=
  (∃ v, x.effect = .users (.create v)) ∨
  ∃ email u before after, x = ⟨.users (.getByEmail email), .ok (some u), before, after⟩

/-- While nobody has the address, a sign-up for it learns nothing, or gets it. -/
theorem step_of_free (keyed : x.before.Keyed) (served : x.Served) (asks : AsksFor email x.effect)
    (free : x.before.emailHolder? email = none) :
    (¬ Decides x ∧ x.after.emailHolder? email = none) ∨
      ∃ u, SignUp.Inserts x u ∧ x.after.emailHolder? email = some u.id := by
  obtain ⟨e, answer, before, after⟩ := x
  change before.Keyed at keyed
  change before.emailHolder? email = none at free
  have hquiet (hcreate : ∀ v, e ≠ .users (.create v))
      (hlookup : ∀ email, e ≠ .users (.getByEmail email)) :
      ¬ Decides ⟨e, answer, before, after⟩ := by
    rintro (⟨v, hv⟩ | ⟨_, _, _, _, heq⟩)
    · exact hcreate v hv
    · exact hlookup _ (congrArg Exchange.effect heq)
  cases e with
  | users call =>
    cases call with
    | getByEmail email' =>
      obtain rfl : email' = email := asks
      obtain ⟨found, hcall, hfound⟩ := before.getByEmail_answer email'
      obtain ⟨rfl, rfl⟩ := Prod.mk.inj (hcall.symm.trans served)
      have hnone : found = none := Option.map_eq_none_iff.1 (hfound.trans free)
      subst hnone
      refine .inl ⟨?_, free⟩
      rintro (⟨v, hv⟩ | ⟨_, _, _, _, heq⟩)
      · cases hv
      · cases heq
    | create v =>
      obtain ⟨s', hcreate, hholder⟩ := Store.createUser_of_free keyed (.create v) asks.1 asks.2 free
      obtain ⟨rfl, rfl⟩ := Prod.mk.inj (hcreate.symm.trans served)
      exact .inr ⟨_, ⟨v, _, _, rfl⟩, hholder⟩
    | _ => exact asks.elim
  | sessions call => exact asks.elim
  | _ =>
    obtain rfl : after = before := served
    exact .inl ⟨hquiet (fun _ h => nomatch h) (fun _ h => nomatch h), free⟩

/-- Once somebody has the address, a sign-up for it changes nothing. -/
theorem step_of_taken (keyed : x.before.Keyed) (served : x.Served) (asks : AsksFor email x.effect)
    (taken : (x.before.emailHolder? email).isSome = true) :
    x.after = x.before ∧ ∀ u, ¬ SignUp.Inserts x u := by
  obtain ⟨e, answer, before, after⟩ := x
  change before.Keyed at keyed
  change (before.emailHolder? email).isSome = true at taken
  cases e with
  | users call =>
    cases call with
    | getByEmail email' =>
      exact ⟨(Prod.mk.inj served).2.symm, fun u ⟨_, _, _, heq⟩ => by cases heq⟩
    | create v =>
      have hcreate := Store.createUser_of_taken keyed (.create v) asks.1 taken
      obtain ⟨rfl, rfl⟩ := Prod.mk.inj (hcreate.symm.trans served)
      exact ⟨rfl, fun u ⟨_, _, _, heq⟩ => by cases heq⟩
    | _ => exact asks.elim
  | sessions call => exact asks.elim
  | _ => exact ⟨served, fun u ⟨_, _, _, heq⟩ => by cases heq⟩

/-- Nobody has the address yet, and no contestant has learnt anything; or one contestant got it. -/
def Standing (email : String) (contestants : List Nat) (T : Trace Store) (s : Store) : Prop :=
  (s.emailHolder? email = none ∧ ∀ i ∈ contestants, ∀ x, (i, x) ∈ T → ¬ Decides x) ∨
  ∃ winner ∈ contestants, ∃ u, s.emailHolder? email = some u.id ∧
    (∃ x, (winner, x) ∈ T ∧ SignUp.Inserts x u) ∧
    ∀ i ∈ contestants, ∀ x u', (i, x) ∈ T → SignUp.Inserts x u' → i = winner ∧ u' = u

/-- **The step of a race.** -/
theorem Standing.step {i : Nat} (h : Standing email contestants T x.before) (keyed : x.before.Keyed)
    (contestant : i ∈ contestants → x.Served ∧ AsksFor email x.effect)
    (other : i ∉ contestants → x.after.emailHolder? email = x.before.emailHolder? email) :
    Standing email contestants (T ++ [(i, x)]) x.after := by
  have hmem {j : Nat} {y : Exchange Store} (hy : (j, y) ∈ T ++ [(i, x)]) :
      (j, y) ∈ T ∨ j = i ∧ y = x := by simpa using hy
  rcases h with ⟨free, hundecided⟩ | ⟨winner, hwinner, u, hholder, ⟨y, hy, hinserts⟩, honly⟩
  · -- the address is free: a contestant learns nothing, or gets it
    by_cases hi : i ∈ contestants
    · obtain ⟨served, asks⟩ := contestant hi
      rcases step_of_free keyed served asks free with ⟨hx, hafter⟩ | ⟨u, hx, hafter⟩
      · refine .inl ⟨hafter, fun j hj y hy => ?_⟩
        rcases hmem hy with hy | ⟨rfl, rfl⟩
        · exact hundecided j hj y hy
        · exact hx
      · refine .inr ⟨i, hi, u, hafter, ⟨x, by simp, hx⟩, fun j hj y u' hy hu' => ?_⟩
        rcases hmem hy with hy | ⟨rfl, rfl⟩
        · obtain ⟨v, _, _, rfl⟩ := hu'
          exact absurd (.inl ⟨v, rfl⟩) (hundecided j hj _ hy)
        · obtain ⟨_, _, _, rfl⟩ := hx
          obtain ⟨_, _, _, heq⟩ := hu'
          cases heq
          exact ⟨rfl, rfl⟩
    · refine .inl ⟨(other hi).trans free, fun j hj y hy => ?_⟩
      rcases hmem hy with hy | ⟨rfl, rfl⟩
      · exact hundecided j hj y hy
      · exact absurd hj hi
  · -- the winner has it: nobody else can insert
    by_cases hi : i ∈ contestants
    · obtain ⟨served, asks⟩ := contestant hi
      obtain ⟨hafter, hnot⟩ := step_of_taken keyed served asks (by rw [hholder]; rfl)
      refine .inr ⟨winner, hwinner, u, by rw [hafter, hholder], ⟨y, by simp [hy], hinserts⟩,
        fun j hj z u' hz hu' => ?_⟩
      rcases hmem hz with hz | ⟨rfl, rfl⟩
      · exact honly j hj z u' hz hu'
      · exact absurd hu' (hnot u')
    · refine .inr ⟨winner, hwinner, u, by rw [other hi, hholder], ⟨y, by simp [hy], hinserts⟩,
        fun j hj z u' hz hu' => ?_⟩
      rcases hmem hz with hz | ⟨rfl, rfl⟩
      · exact honly j hj z u' hz hu'
      · exact absurd hj hi

/-- A race, from its start. -/
theorem standing_of_run {h : Hasher} {c₀ c : Crowd Store (Request × Job) (Except ServiceFailure Value)}
    (run : (service h).Run c₀ T c) (keyed : c₀.shared.Keyed)
    (free : c₀.shared.emailHolder? email = none)
    (contestant : ∀ i ∈ contestants, ∀ x, (i, x) ∈ T → x.Served ∧ AsksFor email x.effect)
    (other : ∀ i x, (i, x) ∈ T → i ∉ contestants →
      x.after.emailHolder? email = x.before.emailHolder? email) :
    Standing email contestants T c.shared := by
  induction run with
  | start => exact .inl ⟨free, fun _ _ _ hx => nomatch hx⟩
  | launch _ _ ih => exact ih contestant other
  | @step T c i job x next run task now answers ih =>
    have hkeyed := keyed.of_run run
    have hstanding := ih (fun j hj y hy => contestant j hj y (by simp [hy]))
      (fun j y hy => other j y (by simp [hy]))
    rw [← now] at hstanding hkeyed
    exact hstanding.step hkeyed (fun hi => contestant i hi x (by simp)) (other i x (by simp))

end Race

/-! ### Assembling the results -/

section Results

variable {h : Hasher} {T T₀ T₁ : Trace Store}
  {c c₀ : Crowd Store (Request × Job) (Except ServiceFailure Value)} {i : Nat} {email : String}
  {contestants : List Nat}

/-- An insertion that the store itself refuses violates the uniqueness of addresses. -/
theorem failure_of_served {x : Exchange Store} (served : x.Served) {f : RepositoryFailure}
    (hf : SignUp.Fails x f) : ServiceFailure.repository createContext f = emailInUse := by
  obtain ⟨v, before, after, rfl⟩ := hf
  have hcreate : before.createUser (.create v) v = (.error f, after) := served
  rw [Store.createUser_eq] at hcreate
  split at hcreate
  · cases hcreate
    rfl
  · cases hcreate

/-- How a contestant can have come back: with the user that it inserted; or with the news that the
    address is taken, which it has learnt on the way, and having inserted nobody. -/
def Placed (T : Trace Store) (c : Crowd Store (Request × Job) (Except ServiceFailure Value))
    (i : Nat) : Prop :=
  (∃ u x k, (i, x) ∈ T ∧ SignUp.Inserts x u ∧ c.Finished i k (.ok (.user u))) ∨
  (∃ x, (i, x) ∈ T ∧ Decides x) ∧ (∀ x u, (i, x) ∈ T → ¬ SignUp.Inserts x u) ∧
    ∃ k, c.Finished i k (.error (.rejected .userEmailExists)) ∨ c.Finished i k (.error emailInUse)

theorem placed_of_valid (run : (service h).Run .nobody T c) {r : Request} {d : UserDraft}
    {fields : Fields} (hi : c.job? i = some (r, .signUp (some d))) (hfields : check d = .ok fields)
    (hashes : ∀ password, fields.password = some password → ∀ salt, ∃ hash,
      h.create salt password = .ok hash)
    (served : ∀ x, (i, x) ∈ T → x.Served) (back : ∃ k v, c.Finished i k v) : Placed T c i := by
  obtain ⟨k, v, hfinished⟩ := back
  obtain rfl : k = (r, .signUp (some d)) :=
    Option.some.inj ((Crowd.job?_of_task hfinished).symm.trans hi)
  obtain ⟨result, rfl, houtcome⟩ := outcome_of_finished run hfinished
  have hquiet (hq : SignUp.Quiet (T.own i)) (x : Exchange Store) (u : User) (hx : (i, x) ∈ T) :
      ¬ SignUp.Inserts x u := by
    rintro ⟨v, _, _, rfl⟩
    exact hq _ (Trace.mem_own.2 hx) v rfl
  -- a valid draft, a hash for the password and calls that reach the store leave three outcomes
  cases houtcome with
  | invalid rejection fault other => exact absurd hfields (fault d fields rfl)
  | taken d' fields' email u before after hd hfields' hemail found quiet =>
    refine .inr ⟨⟨_, Trace.mem_own.1 found, .inr ⟨email, u, before, after, rfl⟩⟩, hquiet quiet, ?_⟩
    exact ⟨_, .inl hfinished⟩
  | unhashed d' fields' password salt e hd hfields' hpassword refused quiet =>
    obtain rfl := Option.some.inj hd
    obtain rfl := Except.ok.inj (hfields.symm.trans hfields')
    obtain ⟨hash, hhash⟩ := hashes password hpassword salt
    rw [refused] at hhash
    cases hhash
  | lookupFailed email f before after answer quiet =>
    have hserved := served _ (Trace.mem_own.1 answer)
    cases (Prod.mk.inj hserved).1
  | insertFailed f x hx failed only =>
    rw [Trace.mem_own] at hx
    have hinserts (y : Exchange Store) (u : User) (hy : (i, y) ∈ T) : ¬ SignUp.Inserts y u := by
      rintro ⟨v, _, _, rfl⟩
      obtain ⟨_, _, _, heq⟩ := only _ (Trace.mem_own.2 hy) v rfl ▸ failed
      cases heq
    have hdecides : Decides x := by
      obtain ⟨v, _, _, rfl⟩ := failed
      exact .inl ⟨v, rfl⟩
    rw [failure_of_served (served x hx) failed] at hfinished
    exact .inr ⟨⟨x, hx, hdecides⟩, hinserts, _, .inr hfinished⟩
  | done u entered =>
    obtain ⟨-, x, hx, hinserts⟩ := entered
    exact .inl ⟨u, x, _, Trace.mem_own.1 hx, hinserts, hfinished⟩

/-- **Exactly one contestant wins a race.** -/
theorem oneWinner_of_contest (run₀ : (service h).Run .nobody T₀ c₀) (run₁ : (service h).Run c₀ T₁ c)
    (contest : Contest h email contestants T₀ c₀ T₁ c) :
    OneWinner email contestants (T₀ ++ T₁) c := by
  have run := run₀.trans run₁
  have hmem {i : Nat} (hi : i ∈ contestants) {x : Exchange Store} (hx : (i, x) ∈ T₀ ++ T₁) :
      (i, x) ∈ T₁ := (List.mem_append.1 hx).resolve_left (contest.fresh i hi x)
  have hkeyed := keyed_of_run run₀
  have hasks (i : Nat) (hi : i ∈ contestants) (x : Exchange Store) (hx : (i, x) ∈ T₁) :
      x.Served ∧ AsksFor email x.effect := by
    refine ⟨contest.served i hi x hx, ?_⟩
    obtain ⟨r, d, fields, hjob, hfields, hemail, -⟩ := contest.valid i hi
    obtain ⟨d', fields', hd, hfields', hx'⟩ := asks_of_mem run hjob (List.mem_append_right _ hx)
    obtain rfl := Option.some.inj hd
    obtain rfl := Except.ok.inj (hfields.symm.trans hfields')
    exact asksFor_of_asks hemail hx'
  have hstanding := standing_of_run run₁ hkeyed contest.free hasks contest.alone
  have hplaced (i : Nat) (hi : i ∈ contestants) : Placed (T₀ ++ T₁) c i := by
    obtain ⟨r, d, fields, hjob, hfields, -, hashes⟩ := contest.valid i hi
    exact placed_of_valid run hjob hfields hashes
      (fun x hx => contest.served i hi x (hmem hi hx)) (contest.back i hi)
  rcases hstanding with ⟨-, hundecided⟩ | ⟨winner, hwinner, u, hholder, ⟨y, hy, hinserts⟩, honly⟩
  · -- whoever has come back has decided something
    obtain ⟨i, hi⟩ := List.exists_mem_of_ne_nil contestants contest.some
    rcases hplaced i hi with ⟨u, x, k, hx, ⟨v, _, _, rfl⟩, -⟩ | ⟨⟨x, hx, hdecides⟩, -⟩
    · exact absurd (.inl ⟨v, rfl⟩) (hundecided i hi _ (hmem hi hx))
    · exact absurd hdecides (hundecided i hi x (hmem hi hx))
  · refine ⟨winner, hwinner, ?_, ?_⟩
    · -- a contestant who has inserted somebody comes back with that user
      rcases hplaced winner hwinner with ⟨u', x, k, hx, hx', hfinished⟩ | ⟨-, hnot, -⟩
      · obtain ⟨-, rfl⟩ := honly winner hwinner x u' (hmem hwinner hx) hx'
        exact ⟨k, u', hfinished, hholder⟩
      · exact absurd hinserts (hnot y u (List.mem_append_right _ hy))
    · -- nobody else has inserted anybody
      intro i hi hne
      rcases hplaced i hi with ⟨u', x, k, hx, hx', -⟩ | ⟨-, hnot, hfinished⟩
      · exact absurd (honly i hi x u' (hmem hi hx) hx').1 hne
      · obtain ⟨r, d, fields, hjob, -⟩ := contest.valid i hi
        exact ⟨hfinished, fun x hx => unchanged_of_not_inserts run hjob (fun y hy u => hnot y u hy) hx⟩

end Results

/-- **Addresses stay apart under any interleaving.** -/
theorem emails_apart {h : Hasher} {T : Trace Store}
    {c : Crowd Store (Request × Job) (Except ServiceFailure Value)}
    (run : (service h).Run .nobody T c) : EmailsApart h T c where
  unique := (Store.uniqueEmails_of_run run).length_filter_le_one
  refused := by
    intro i r draft u answer before after hi hx served taken hsome
    have hkeyed : before.Keyed := keyed_of_mem run hx
    obtain ⟨email, hemail⟩ := Option.isSome_iff_exists.1 hsome
    have hholder : (before.emailHolder? email).isSome = true :=
      Store.emailHolder?_isSome.2 (hemail ▸ taken)
    have hcreate := Store.createUser_of_taken hkeyed (.create u) hemail hholder
    obtain ⟨rfl, rfl⟩ := Prod.mk.inj (hcreate.symm.trans served)
    -- the insertion has failed, and a sign-up does nothing more behind that
    have hfails : SignUp.Fails ⟨.users (.create u), .error (Store.emailViolation (.create u)),
      before, before⟩ (Store.emailViolation (.create u)) := ⟨u, _, _, rfl⟩
    have hfinished := finished_of_fails run hi hx hfails
    refine ⟨hfinished, fun y hy => unchanged_of_not_inserts run hi ?_ hy⟩
    rintro z hz v ⟨w, _, _, rfl⟩
    obtain ⟨result, hresult, houtcome⟩ := outcome_of_finished run hfinished
    rcases result with f | v
    · cases hresult
      have hown := Trace.mem_own.2 hx
      cases houtcome with
      | lookupFailed email f before after answer quiet =>
        -- no insertion has been tried on this way
        exact quiet _ hown u rfl
      | insertFailed f z' hz' failed only =>
        -- both insertions would be the one that failed
        have hsame := (only _ (Trace.mem_own.2 hz) w rfl).trans (only _ hown u rfl).symm
        cases hsame
    · cases hresult
  rejected := by
    intro i r draft hi
    obtain ⟨result, hresult, houtcome⟩ := outcome_of_finished run hi
    rcases result with f | v
    · cases hresult
      cases houtcome with
      | invalid rejection fault other => exact absurd rfl other
      | taken d fields email u before after hd hfields hemail found quiet =>
        obtain ⟨raw, hraw, hcanonical⟩ := email_of_check hfields hemail
        have hx := Trace.mem_own.1 found
        refine ⟨d, raw, email, u, before, after, hd, hraw, hcanonical, hx, ?_⟩
        -- the lookup was answered by the store, which found a live row
        rcases run.answers_of_mem hx with hserved | ⟨⟨f, hf⟩, -⟩
        · obtain ⟨found', hcall, hholder⟩ := before.getByEmail_answer email
          obtain ⟨hfound, -⟩ := Prod.mk.inj (hcall.symm.trans hserved)
          obtain rfl := Except.ok.inj hfound
          exact Store.emailHolder?_isSome.1 (by rw [← hholder]; rfl)
        · cases hf
    · cases hresult
  race T₀ c₀ T₁ email contestants run₀ run₁ contest := oneWinner_of_contest run₀ run₁ contest

/-! ### A race -/

/-- A lookup of the address that finds nobody. -/
def addressLookup : Exchange Store :=
  ⟨.users (.getByEmail "ann@example.com"), .ok none, .empty, .empty⟩

/-- Two sign-ups for one address that have both found it free: the one that inserts first wins. -/
theorem emails_apart_race :
    ∃ T c, (service .argon2).Run .nobody T c ∧ EmailsApart .argon2 T c ∧
      OneWinner "ann@example.com" [0, 1] T c := by
  have hprogram : (service .argon2).program (.new "r" .epoch, .signUp (some addressDraft))
      = (do return Value.user (← enter .argon2 (.new "r" .epoch) ⟨some "ann@example.com", none, none,
          none⟩) : Service Value).run := by
    show (create .argon2 (.new "r" .epoch) (some addressDraft) >>= _ : Service Value).run = _
    rw [create_of_check check_addressDraft]
  have opened : (service .argon2).Run .nobody [] .nobody := .start
  -- the first one looks, the second one runs through, and then the first one goes on
  have launched := (opened.launch (.new "r" .epoch, .signUp (some addressDraft))).launch
    (.new "r" .epoch, .signUp (some addressDraft))
  rw [hprogram] at launched
  have looked := launched.step (i := 0) addressLookup rfl rfl (.inl rfl)
  obtain ⟨T₁, overtaken, h₁⟩ := looked.undisturbed (i := 1) (.calm .epoch) rfl
  obtain ⟨T₀, decided, h₀⟩ := overtaken.undisturbed (i := 0) (.calm .epoch) rfl
  have hsteps (step : Nat × Exchange Store) (hstep : step ∈ [] ++ [(0, addressLookup)] ++ T₁ ++ T₀) :
      step.1 ∈ [0, 1] ∧ step.2.Served := by
    simp only [List.nil_append, List.mem_append, List.mem_singleton] at hstep
    rcases hstep with (rfl | hstep) | hstep
    · exact ⟨by simp, rfl⟩
    · exact ⟨by simp [(h₁ step hstep).1], (h₁ step hstep).2⟩
    · exact ⟨by simp [(h₀ step hstep).1], (h₀ step hstep).2⟩
  have hall := emails_apart decided
  refine ⟨_, _, decided, hall, hall.race [] .nobody _ _ [0, 1] .start decided ?_⟩
  refine ⟨by simp, rfl, (fun _ _ _ h => nomatch h), ?_, fun i _ x hx => (hsteps (i, x) hx).2, ?_,
    fun i x hx hi => absurd (hsteps (i, x) hx).1 hi⟩
  · intro i hi
    refine ⟨.new "r" .epoch, addressDraft, _, ?_, check_addressDraft, rfl, (fun _ h => nomatch h)⟩
    rcases List.mem_cons.1 hi with rfl | hi
    · rfl
    · obtain rfl := List.mem_singleton.1 hi
      rfl
  · intro i hi
    rcases List.mem_cons.1 hi with rfl | hi
    · exact ⟨_, _, rfl⟩
    · obtain rfl := List.mem_singleton.1 hi
      exact ⟨_, _, rfl⟩

end Turnstile.Accounts
