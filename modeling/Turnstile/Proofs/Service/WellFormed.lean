import Turnstile.Proofs.Service.SoundRecords
import Turnstile.Proofs.Sessions.Enumeration

namespace Turnstile

open Credential (Hasher)

/-!
# The store stays well-formed

However operations follow and interrupt each other, as long as their callers pass on only records that they
have got from other operations, old as these may be.

* `FaithfulRun.inOrder` is the invariant: the rows are sound, and so is each record that operations are given
  or told.
* `wellFormed_throughout`: the store is well-formed at every point, and whatever record of a user comes back
  from an operation has no plain password on it and tells truly whether there is a hash.
-/

namespace FaithfulRun

variable {h : Hasher} {T : Trace Store} {c : Crowd Store (Request × Job) (Except ServiceFailure Value)}

/-- What is in order in a run so far: the rows of the store, the records that operations were given, and
    those that they were told. -/
structure InOrder (T : Trace Store) (c : Crowd Store (Request × Job) (Except ServiceFailure Value)) :
    Prop where
  rows : c.shared.SoundRows
  given : ∀ i r job u, c.job? i = some (r, job) → job.record? = some u → u.Sound
  told : ∀ i x u, (i, x) ∈ T → x.Tells u → u.Sound

/-- What is proper behind the exchanges of a task the store admits: a user who was found is still there. -/
theorem admits_of_proper (run : (service h).Run .nobody T c) {i : Nat} {e : Effect}
    (proper : Proper (T.own i) e) : c.shared.Admits e := by
  cases e with
  | users call => cases call <;> exact proper
  | sessions call =>
    cases call with
    | create x =>
      obtain ⟨hsound, email, u, before, after, hmem, hid⟩ := proper
      have hy := Trace.mem_own.1 hmem
      obtain ⟨T₁, T₂, b, -, -, hbefore, hrest⟩ := run.cut hy
      have keyed : before.Keyed := keyed_of_mem run hy
      have hlive := Store.getByEmail_ok (run.answers_of_mem hy).callUsers_of_ok
      obtain ⟨hpos, hhanded⟩ := keyed.handed_of_live hlive
      have hle : u.id ≤ c.shared.lastUser := Store.handed_of_run hrest (hbefore ▸ hhanded)
      exact ⟨hsound, hid ▸ hpos, hid ▸ hle⟩
    | _ => exact trivial
  | _ => exact trivial

/-- A record that is told behind proper questions is sound. -/
theorem sound_of_tells {past : List (Exchange Store)} {x : Exchange Store} {v : User}
    (rows : x.before.SoundRows) (proper : Proper past x.effect)
    (answers : x.before.Answers x.effect x.answer x.after) (tells : x.Tells v) : v.Sound := by
  cases tells with
  | found id before after => exact Store.getById_sound rows answers.callUsers_of_ok
  | created u before after => exact Store.createUser_sound proper answers.callUsers_of_ok
  | saved u before after => exact Store.save_sound proper answers.callUsers_of_ok
  | deleted u before after => exact Store.delete_sound proper answers.callUsers_of_ok

/-- **Everything stays in order.** -/
theorem inOrder (run : FaithfulRun h T c) : InOrder T c := by
  induction run with
  | start =>
    refine ⟨Store.empty_soundRows, fun i r job u hi => ?_, fun i x u hx => nomatch hx⟩
    cases hi
  | @launch T c r job run given ih =>
    refine ⟨ih.rows, fun i r' job' u hi hu => ?_, ih.told⟩
    rw [Crowd.job?_launch] at hi
    split at hi
    · cases hi
      -- the record was given by an operation, which had been told
      obtain ⟨v, ⟨j, k, value, hj, hv⟩, hsame⟩ := given u hu
      obtain ⟨x, hx, htells⟩ := told_of_finished run.toRun hj hv
      have hsound := ih.told j x v hx htells
      rw [hsame]
      exact hsound.restamped v.id v.createdAt v.deletedAt _
    · exact ih.given i r' job' u hi hu
  | @step T c i job x next run task now answers ih =>
    obtain ⟨r, job⟩ := job
    have proper : Proper (T.own i) x.effect :=
      proper_of_task x run.toRun task fun u hu => ih.given i r job u (Crowd.job?_of_task task) hu
    have rows : x.before.SoundRows := now ▸ ih.rows
    have admits : x.before.Admits x.effect := now ▸ admits_of_proper run.toRun proper
    refine ⟨rows.answers admits answers, fun j r' job' u hj hu => ?_, fun j y u hy htells => ?_⟩
    · rw [Crowd.job?_set task] at hj
      exact ih.given j r' job' u hj hu
    · rcases List.mem_append.1 hy with hy | hy
      · exact ih.told j y u hy htells
      · obtain ⟨rfl, rfl⟩ : _ = _ ∧ _ = _ := by simpa using hy
        exact sound_of_tells rows proper answers htells

end FaithfulRun

/-- **The store is well-formed at every point of every run**, and the record of a user that an operation
    comes back with is sound: without a plain password, and with the word on whether there is a hash being
    true. -/
theorem wellFormed_throughout {h : Hasher} {T : Trace Store}
    {c : Crowd Store (Request × Job) (Except ServiceFailure Value)} (run : FaithfulRun h T c) :
    c.shared.WellFormed ∧
      ∀ i job value u, c.Finished i job (.ok value) → value.user? = some u → u.Sound := by
  refine ⟨run.inOrder.rows.wellFormed (keyed_of_run run.toRun), fun i job value u hi hu => ?_⟩
  obtain ⟨x, hx, htells⟩ := FaithfulRun.told_of_finished run.toRun hi hu
  exact run.inOrder.told i x u hx htells

/-! ### A user who gets a password and signs in -/

/-- Tasks are never removed. -/
theorem System.Run.length_le {σ κ α : Type} {S : System σ κ α} {a c : Crowd σ κ α} {T : Trace σ}
    (run : S.Run a T c) : a.tasks.length ≤ c.tasks.length := by
  induction run with
  | start => exact Nat.le_refl _
  | launch job _ ih =>
    rw [List.length_append]
    exact Nat.le_add_right_of_le ih
  | step x _ _ _ _ ih => rwa [List.length_set]

/-- A faithful run may go on in any way, as long as nothing is launched. -/
theorem FaithfulRun.extend {h : Hasher} {T T' : Trace Store}
    {c c' : Crowd Store (Request × Job) (Except ServiceFailure Value)} (run : FaithfulRun h T c)
    (more : (service h).Run c T' c') (same : c'.tasks.length = c.tasks.length) :
    FaithfulRun h (T ++ T') c' := by
  induction more with
  | start => rwa [List.append_nil]
  | launch job more _ =>
    have hle := more.length_le
    rw [List.length_append, List.length_singleton] at same
    omega
  | step x more task now answers ih =>
    rw [List.length_set] at same
    rw [← List.append_assoc]
    exact (ih same).step x task now answers

/-- A faithful run may go on with one task by itself, to its end. -/
theorem FaithfulRun.undisturbed {h : Hasher} {T : Trace Store}
    {c : Crowd Store (Request × Job) (Except ServiceFailure Value)} {i : Nat} {job : Request × Job}
    {p : Program (Except ServiceFailure Value)} (run : FaithfulRun h T c) (o : Surroundings)
    (task : c.tasks[i]? = some ⟨job, p⟩) :
    ∃ T', FaithfulRun h T' ⟨(p.runOn o c.shared).2, c.tasks.set i ⟨job, .done (p.runOn o c.shared).1⟩⟩ := by
  have stays : (service h).Run c [] c := .start
  obtain ⟨T', more, -⟩ := stays.undisturbed o task
  exact ⟨_, run.extend more (List.length_set ..)⟩

open Accounts (ann securing)

/-- The user's record as another operation may have got it, with the address verified since. -/
def verifiedAnn : User := { ann with emailVerified := true }

/-- The store behind the sign-up and the setting of a password on this record. -/
def passwordStore : Store := ((securing.rest plainHasher verifiedAnn).runOn (.calm .epoch) addressStore).2

/-- A sign-in with this password. -/
def passwordSignIn : SignIn := { addressSignIn with password := some "secret" }

theorem runOn_passwordSignIn : ∃ (x : Session) (s : Store),
    (Sessions.create plainHasher (.new "r" .epoch) (some passwordSignIn)).runOn (.calm .epoch) passwordStore
      = (.ok x, s) ∧ s.users.length = 1 ∧ s.sessions.length = 1 := by
  have hkey : Sessions.addressKey passwordSignIn = some "ann@example.com" := by decide +kernel
  have hpurpose : Sessions.issuable passwordSignIn.purpose = .ok .sessionCreate := by decide +kernel
  rw [Sessions.runOn_create (by decide) hpurpose hkey]
  exact ⟨_, _, rfl, rfl, rfl⟩

/-- A user signs up, and gets the password. -/
theorem run_passwordStore : ∃ T v₁ v₂, FaithfulRun plainHasher T ⟨passwordStore,
    [⟨(.new "r" .epoch, .signUp (some Accounts.addressDraft)), .done v₁⟩,
      ⟨(.new "r" .epoch, .update (some verifiedAnn) none (some securing.draft)), .done v₂⟩]⟩ := by
  have launched := FaithfulRun.start.launch (h := plainHasher) (.new "r" .epoch)
    (.signUp (some Accounts.addressDraft)) fun _ h => nomatch h
  rw [program_addressSignUp] at launched
  obtain ⟨T₁, signedUp⟩ := launched.undisturbed (i := 0) (.calm .epoch) rfl
  -- the record comes from the sign-up
  have given : ∀ v, (Job.update (some verifiedAnn) none (some securing.draft)).record? = some v →
      ∃ u, Crowd.Gave ⟨addressStore, [⟨(.new "r" .epoch, .signUp (some Accounts.addressDraft)),
        .done (.ok (.user ann))⟩]⟩ u ∧ v = { u with emailVerified := v.emailVerified } := by
    rintro v ⟨⟩
    exact ⟨ann, ⟨0, _, .user ann, rfl, rfl⟩, rfl⟩
  have relaunched :=
    signedUp.launch (.new "r" .epoch) (.update (some verifiedAnn) none (some securing.draft))
    given
  rw [show (service plainHasher).program (.new "r" .epoch,
    .update (some verifiedAnn) none (some securing.draft)) = securing.rest plainHasher verifiedAnn from
    Accounts.program_of_check Accounts.check_securing plainHasher verifiedAnn] at relaunched
  obtain ⟨T₂, secured⟩ := relaunched.undisturbed (i := 1) (.calm .epoch) rfl
  exact ⟨_, _, _, secured⟩

/-- The user signs in with it. -/
theorem wellFormed_throughout_password : ∃ T c, FaithfulRun plainHasher T c ∧
    c.shared.users.length = 1 ∧ c.shared.sessions.length = 1 ∧ c.shared.WellFormed := by
  obtain ⟨T, v₁, v₂, secured⟩ := run_passwordStore
  have again := secured.launch (.new "r" .epoch) (.signIn (some passwordSignIn)) fun _ h => nomatch h
  obtain ⟨T₃, signedIn⟩ := again.undisturbed (i := 2) (.calm .epoch) rfl
  obtain ⟨x, s, hx, husers, hsessions⟩ := runOn_passwordSignIn
  have hdone : ((service plainHasher).program (.new "r" .epoch, .signIn (some passwordSignIn))).runOn
      (.calm .epoch) passwordStore = (.ok (.session x), s) := by
    show (Sessions.create _ _ _ >>= _ : Service Value).runOn _ _ = _
    rw [Service.runOn_bind, hx]
    rfl
  refine ⟨_, _, signedIn, ?_, ?_, (wellFormed_throughout signedIn).1⟩
  · exact (congrArg (fun result => result.2.users.length) hdone).trans husers
  · exact (congrArg (fun result => result.2.sessions.length) hdone).trans hsessions

end Turnstile
