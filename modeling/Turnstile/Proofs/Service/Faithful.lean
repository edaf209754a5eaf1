import Turnstile.Proofs.Service.Lookups
import Turnstile.Proofs.Service.Operations
import Turnstile.Proofs.Store.Ends

namespace Turnstile

open Credential (Hasher)

/-!
# Faithful callers

An update and a deletion are given a whole record of a user, and nothing in the operation itself says where
it comes from. A caller is faithful who passes on only records that an operation has given, old as they may
be, and with another word at most on whether the address is verified.

* `FaithfulRun` is a run with such callers only.
* `Store.Knows` is what there is to know of such a record: its key was handed out, and if it is marked as
  deleted, so is its user. This is never lost again (`Knows.answers`).
* `FaithfulRun.knows`: it holds of all records that operations give and are given.
-/

/-! ### Records that a store knows -/

namespace Store

/-- The key of the record was handed out; and a record that is marked as deleted is one of a user who is not
    live. -/
structure Knows (s : Store) (v : User) : Prop where
  handed : v.id ≤ s.lastUser
  truthful : v.isLive = false → s.liveUser? v.id = none

variable {s s' : Store} {u v row : User}

/-- A store knows what its rows say. -/
theorem knows_of_row (keyed : s.Keyed) (hrow : row ∈ s.users) (hid : v.id = row.id)
    (hmark : v.deletedAt = row.deletedAt) : s.Knows v := by
  refine ⟨?_, fun hdead => ?_⟩
  · rw [hid]
    exact (keyed.handed_of_mem hrow).2
  · have hrowDead : ¬ row.isLive = true := by
      rw [User.isLive, ← hmark]
      exact Bool.eq_false_iff.1 hdead
    rw [keyed.isLive_iff hrow, ← hid, Bool.not_eq_true, Option.isSome_eq_false_iff,
      Option.isNone_iff_eq_none] at hrowDead
    exact hrowDead

/-- What is known stays known. -/
theorem Knows.answers {e : Effect} {answer : e.Answer} (h : s.Knows v) (hs : s.Answers e answer s') :
    s'.Knows v := by
  rcases hs.cases with rfl | hwrites
  · exact h
  · exact ⟨Int.le_trans h.handed (Int.ofNat_le.2 hwrites.lastUser_le),
      fun hdead => hwrites.liveUser?_eq_none h.handed (h.truthful hdead)⟩

/-- A user who was inserted is known. -/
theorem knows_of_createUser {call : UserCall} (keyed : s'.Keyed)
    (h : s.createUser call u = (.ok v, s')) : s'.Knows v := by
  have hrow : keptUser v ∈ s'.users := by
    rw [(create_user_ok h).2]
    exact List.mem_append_right _ List.mem_cons_self
  exact knows_of_row keyed hrow rfl rfl

/-- A user who was saved is known. -/
theorem knows_of_save (keyed : s.Keyed) (keyed' : s'.Keyed)
    (h : s.callUsers (.save u) = (.ok v, s')) : s'.Knows v :=
  knows_of_row keyed' (saved_user_mem keyed h) rfl rfl

/-- A user who was deleted is known, if the record that was given is. -/
theorem knows_of_delete (keyed : s.Keyed) (keyed' : s'.Keyed) (known : s.Knows u)
    (h : s.callUsers (.delete u) = (.ok v, s')) : s'.Knows v := by
  rcases delete_user_ok h with ⟨-, rfl, rfl⟩ | ⟨row, live, rfl, husers⟩
  · -- nobody live has the key, and the record comes back as it was
    exact known
  · have hmarked := changed_mem (keyed.pairwise_isLiveUser u.id) s.markedUser
      (List.mem_of_find?_eq_some live)
    rw [if_pos (List.find?_some live), ← husers] at hmarked
    have hid : u.id = row.id := ((liveUser?_eq_some keyed.nodup_users).1 live).2.1.symm
    exact knows_of_row keyed' hmarked hid rfl

/-- A user who was found is known. -/
theorem knows_of_getById {id : Id} (keyed : s.Keyed)
    (h : s.callUsers (.getById id) = (.ok (some v), s')) : s'.Knows v := by
  obtain ⟨hfound, rfl⟩ := Prod.mk.inj h
  obtain ⟨row, hrow, rfl⟩ := Option.map_eq_some_iff.1 (Except.ok.inj hfound)
  exact knows_of_row keyed (List.mem_of_find?_eq_some hrow) rfl rfl

end Store

/-! ### Records that operations give -/

/-- The exchange answers with a record of a user, and not only to look up who signs in or up. -/
inductive Exchange.Tells (v : User) : Exchange Store → Prop where
  | found (id : Id) (before after : Store) :
      Tells v ⟨.users (.getById id), .ok (some v), before, after⟩
  | created (u : User) (before after : Store) : Tells v ⟨.users (.create u), .ok v, before, after⟩
  | saved (u : User) (before after : Store) : Tells v ⟨.users (.save u), .ok v, before, after⟩
  | deleted (u : User) (before after : Store) : Tells v ⟨.users (.delete u), .ok v, before, after⟩

/-- The record was among the answers. -/
def Told (past : List (Exchange Store)) (v : User) : Prop := ∃ x ∈ past, x.Tells v

/-- The record of a user that an operation gives. -/
def Value.user? : Value → Option User
  | .user u => some u
  | .verified _ u => some u
  | .session _ | .count _ => none

section Tells

open Service

variable {h : Hasher} {r : Request} {past : List (Exchange Store)} {x : Exchange Store} {v : User}

theorem Told.snoc (hv : Told past v) : Told (past ++ [x]) v := by
  obtain ⟨y, hy, htells⟩ := hv
  exact ⟨y, List.mem_append_left _ hy, htells⟩

/-- What has been told is given in the end, whatever is done before that. -/
theorem gives_told {β : Type} (m : Service β) : Gives (Told · v) Told (m >>= fun _ => pure v) :=
  Gives.bind (fun _ _ hv => hv.snoc) fun _ => gives_pure fun _ hv => hv

/-- Nothing is needed of what has been exchanged before. -/
theorem gives_bind {β : Type} {Q : List (Exchange Store) → α → Prop} {m : Service β} {f : β → Service α}
    (hf : ∀ b, Gives (fun _ => True) Q (f b)) : Gives (fun _ => True) Q (m >>= f) :=
  Gives.bind (fun _ _ _ => trivial) hf

theorem create_tells (draft : Option UserDraft) :
    Gives (fun _ => True) Told (Accounts.create h r draft) := by
  refine gives_bind fun d => gives_bind fun fields => gives_bind fun _ => gives_bind fun u => ?_
  refine gives_users fun v => Gives.weaken (K := (Told · v)) ?_ ?_
  · exact Gives.bind (fun _ _ hv => hv.snoc) fun _ => gives_told _
  · rintro past ⟨before, after, hmem⟩
    exact ⟨_, hmem, .created _ before after⟩

theorem update_tells (user : Option User) (active : Option Session) (draft : Option UserDraft) :
    Gives (fun _ => True) Told (Accounts.update h r user active draft) := by
  refine gives_bind fun u => gives_bind fun d => gives_bind fun fields => gives_bind fun u₁ => ?_
  refine gives_bind fun u₂ past _ => ?_
  rw [passes_bind, Accounts.save, passes_bind, passes_perform]
  intro answer before after
  refine ⟨trivial, ?_⟩
  rcases answer with failure | saved
  · show Passes _ _ (if failure.isNotFound then _ else _) _
    by_cases hnotFound : failure.isNotFound = true
    · rw [if_pos hnotFound]
      exact trivial
    · rw [if_neg hnotFound]
      exact trivial
  · have htold : Told (past ++ [⟨.users (.save _), .ok saved, before, after⟩]) saved :=
      ⟨_, List.mem_append_right _ List.mem_cons_self, .saved _ before after⟩
    by_cases hpassword : fields.password.isSome = true
    · simp only [if_pos hpassword]
      exact gives_told _ _ htold
    · simp only [if_neg hpassword]
      exact htold

theorem get_tells (id : Id) : Gives (fun _ => True) Told (Accounts.get id) := by
  intro past _
  refine (Accounts.get_passes id).mono ?_
  rintro past' (failure | u) hpost
  · exact trivial
  · obtain ⟨-, -, hrejected⟩ | ⟨answer, before, after, rfl, hgot⟩ := hpost
    · cases hrejected
    · obtain f | _ | v := answer
      · cases hgot
      · cases hgot
      · cases hgot
        exact ⟨_, List.mem_append_right _ List.mem_cons_self, .found id before after⟩

theorem delete_tells (user : Option User) : Gives (fun _ => True) Told (Accounts.delete r user) := by
  refine gives_bind fun u => gives_bind fun _ => ?_
  refine gives_users fun v => Gives.weaken (K := (Told · v)) (gives_told _) ?_
  rintro past ⟨before, after, hmem⟩
  exact ⟨_, hmem, .deleted u before after⟩

theorem verify_tells (authorization : String) :
    Gives (fun _ => True) (fun past p => Told past p.2) (Sessions.verify h r authorization) := by
  intro past _
  refine (Sessions.verify_passes authorization).mono ?_
  rintro past' (failure | ⟨x, u⟩) hpost
  · exact trivial
  · obtain ⟨_, rfl, ⟨id, now, b₁, a₁, b₂, a₂, b₃, a₃⟩⟩ := hpost
    exact ⟨⟨.users (.getById x.userId), .ok (some u), b₃, a₃⟩, by simp, .found _ b₃ a₃⟩

/-- **What an operation gives it has been told**: the record of a user that comes back from an operation was
    among the answers that it got. -/
theorem job_tells (h : Hasher) (r : Request) (job : Job) :
    Gives (fun _ => True) (fun past value => ∀ v, value.user? = some v → Told past v)
      (job.program h r) := by
  cases job with
  | signUp draft =>
    refine (create_tells draft).map fun past u htold v hv => ?_
    exact Option.some.inj hv ▸ htold
  | update user active draft =>
    refine (update_tells user active draft).map fun past u htold v hv => ?_
    exact Option.some.inj hv ▸ htold
  | getUser id =>
    refine (get_tells id).map fun past u htold v hv => ?_
    exact Option.some.inj hv ▸ htold
  | deleteUser user =>
    refine (delete_tells user).map fun past u htold v hv => ?_
    exact Option.some.inj hv ▸ htold
  | verify authorization =>
    show Gives _ _ (Sessions.verify h r authorization >>= fun p => pure (Value.verified p.1 p.2))
    refine (verify_tells authorization).map fun past p htold v hv => ?_
    exact Option.some.inj hv ▸ htold
  | signIn s => exact gives_bind fun x => gives_pure fun past _ v hv => nomatch hv
  | getSession id => exact gives_bind fun x => gives_pure fun past _ v hv => nomatch hv
  | signOut userId keep => exact gives_bind fun count => gives_pure fun past _ v hv => nomatch hv

end Tells

/-! ### Faithful callers -/

/-- The record of a user that an operation is given. -/
def Job.record? : Job → Option User
  | .update user _ _ => user
  | .deleteUser user => user
  | _ => none

/-- Some operation has given the record of a user. -/
def Crowd.Gave (c : Crowd Store (Request × Job) (Except ServiceFailure Value)) (u : User) : Prop :=
  ∃ i job value, c.Finished i job (.ok value) ∧ value.user? = some u

/-- A run from the empty store in which callers pass on only records that operations have given, with another
    word at most on whether the address is verified. -/
inductive FaithfulRun (h : Hasher) :
    Trace Store → Crowd Store (Request × Job) (Except ServiceFailure Value) → Prop where
  | start : FaithfulRun h [] .nobody
  | launch {T c} (r : Request) (job : Job) (run : FaithfulRun h T c)
      (given : ∀ v, job.record? = some v →
        ∃ u, c.Gave u ∧ v = { u with emailVerified := v.emailVerified }) :
      FaithfulRun h T { c with tasks := c.tasks ++ [⟨(r, job), (service h).program (r, job)⟩] }
  | step {T c} {i : Nat} {job : Request × Job} (x : Exchange Store)
      {next : x.effect.Answer → Program (Except ServiceFailure Value)} (run : FaithfulRun h T c)
      (task : c.tasks[i]? = some ⟨job, .ask x.effect next⟩) (now : x.before = c.shared)
      (answers : (service h).Answers x) :
      FaithfulRun h (T ++ [(i, x)]) ⟨x.after, c.tasks.set i ⟨job, next x.answer⟩⟩

namespace FaithfulRun

variable {h : Hasher} {T : Trace Store}
  {c : Crowd Store (Request × Job) (Except ServiceFailure Value)} {i : Nat} {x : Exchange Store}

/-- Such runs are runs. -/
theorem toRun (run : FaithfulRun h T c) : (service h).Run .nobody T c := by
  induction run with
  | start => exact .start
  | launch r job _ _ ih => exact ih.launch (r, job)
  | step x _ task now answers ih => exact ih.step x task now answers

/-- In front of each exchange, there was such a run, and the task was about to ask. -/
theorem before (run : FaithfulRun h T c) (hx : (i, x) ∈ T) :
    ∃ T₁ b job, FaithfulRun h T₁ b ∧ b.shared = x.before ∧ b.job? i = some job ∧
      c.job? i = some job := by
  induction run with
  | start => cases hx
  | launch r job run _ ih =>
    obtain ⟨T₁, b, job', hb, hshared, hjob, hjob'⟩ := ih hx
    refine ⟨T₁, b, job', hb, hshared, hjob, ?_⟩
    rw [Crowd.job?_launch, if_neg (Nat.ne_of_lt (Crowd.lt_length_of_job? hjob')), hjob']
  | @step T c j k y next run task now answers ih =>
    rcases List.mem_append.1 hx with hx | hx
    · obtain ⟨T₁, b, job', hb, hshared, hjob, hjob'⟩ := ih hx
      exact ⟨T₁, b, job', hb, hshared, hjob, by rw [Crowd.job?_set task, hjob']⟩
    · obtain ⟨rfl, rfl⟩ : _ = _ ∧ _ = _ := by simpa using hx
      have hjob := Crowd.job?_of_task task
      exact ⟨T, c, k, run, now.symm, hjob, by rw [Crowd.job?_set task, hjob]⟩

/-- What an operation gives in a run was answered in the run. -/
theorem told_of_finished (run : (service h).Run .nobody T c) {job : Request × Job} {value : Value}
    (hi : c.Finished i job (.ok value)) {v : User} (hv : value.user? = some v) :
    ∃ x, (i, x) ∈ T ∧ x.Tells v := by
  have hpasses : ((service h).program job).Passes Service.notes
      (Service.Given fun past value => ∀ v, value.user? = some v → Told past v) [] :=
    job_tells h job.1 job.2 [] trivial
  have hpost := run.post_of_finished hi hpasses
  rw [Service.notes, Trace.noted_history] at hpost
  obtain ⟨x, hx, htells⟩ := hpost v hv
  exact ⟨x, Trace.mem_own.1 hx, htells⟩

/-- A record that is told is known from then on, if the record of a deletion was known before. -/
theorem knows_of_tells (keyed : x.before.Keyed)
    (answers : x.before.Answers x.effect x.answer x.after) {v : User} (tells : x.Tells v)
    (hdelete : ∀ u, x.effect = .users (.delete u) → x.before.Knows u) : x.after.Knows v := by
  have keyed' := answers.keyed keyed
  cases tells with
  | found id before after => exact Store.knows_of_getById keyed answers.callUsers_of_ok
  | created u before after => exact Store.knows_of_createUser keyed' answers.callUsers_of_ok
  | saved u before after => exact Store.knows_of_save keyed keyed' answers.callUsers_of_ok
  | deleted u before after =>
    -- nobody may have been found, and then the record comes back as it was given
    exact Store.knows_of_delete keyed keyed' (hdelete u rfl) answers.callUsers_of_ok

/-- **The records in a faithful run are known**: those that operations are given, and those that they are
    told. -/
theorem knows (run : FaithfulRun h T c) :
    (∀ i r job v, c.job? i = some (r, job) → job.record? = some v → c.shared.Knows v) ∧
      ∀ i x v, (i, x) ∈ T → x.Tells v → c.shared.Knows v := by
  induction run with
  | start =>
    refine ⟨fun i r job v hi => ?_, fun i x v hx => nomatch hx⟩
    cases hi
  | @launch T c r job run given ih =>
    refine ⟨?_, ih.2⟩
    intro i r' job' v hi hv
    rw [Crowd.job?_launch] at hi
    split at hi
    · cases hi
      -- the record was given by an operation, which had been told
      obtain ⟨u, ⟨j, k, value, hj, hu⟩, hsame⟩ := given v hv
      obtain ⟨x, hx, htells⟩ := told_of_finished run.toRun hj hu
      have known := ih.2 j x u hx htells
      rw [hsame]
      exact ⟨known.handed, known.truthful⟩
    · exact ih.1 i r' job' v hi hv
  | @step T c i job x next run task now answers ih =>
    -- no job is added, and what was known is not lost
    have hrecords : ∀ i r job v, c.job? i = some (r, job) → job.record? = some v →
        x.before.Knows v := by
      rw [now]
      exact ih.1
    refine ⟨?_, ?_⟩
    · intro j r' job' v hj hv
      rw [Crowd.job?_set task] at hj
      exact (hrecords j r' job' v hj hv).answers answers
    · intro j y v hy htells
      rcases List.mem_append.1 hy with hy | hy
      · have known := ih.2 j y v hy htells
        rw [← now] at known
        exact known.answers answers
      · obtain ⟨rfl, rfl⟩ : _ = _ ∧ _ = _ := by simpa using hy
        have keyed : y.before.Keyed := by
          rw [now]
          exact keyed_of_run run.toRun
        refine knows_of_tells keyed answers htells fun u hdelete => ?_
        -- a deletion asks for nothing but the record that it was given
        obtain ⟨r, job⟩ := job
        have hjob := Crowd.job?_of_task task
        have hjob' := Crowd.job?_set (s := y.after) (q := next y.answer) (j := j) task
        rw [hjob] at hjob'
        obtain ⟨_, _, -, hallows⟩ := allows_of_mem (run.toRun.step y task now answers) hjob'
          (List.mem_append_right _ List.mem_cons_self)
        rw [hdelete] at hallows
        obtain rfl : job = .deleteUser (some u) := hallows
        exact hrecords j r _ u hjob rfl

/-- **A faithful caller never buries a user**: an update is not given a record that is marked as deleted
    while its user is live. -/
theorem not_ended_by_save (run : FaithfulRun h T c) {v : User} (hx : (i, x) ∈ T)
    (hsave : x.effect = .users (.save v)) (hdead : v.isLive = false) : ¬ Store.EndsUser v.id x := by
  rintro ⟨hlive, -⟩
  obtain ⟨T₁, b, ⟨r, job⟩, hb, hshared, hjob, hjob'⟩ := run.before hx
  obtain ⟨_, _, -, hallows⟩ := allows_of_mem run.toRun hjob' hx
  rw [hsave] at hallows
  obtain ⟨u, active, d, rfl, hid, hmark⟩ := hallows
  have known := hb.knows.1 i r _ u hjob rfl
  have hnone : b.shared.liveUser? u.id = none := by
    refine known.truthful ?_
    rw [User.isLive, ← hmark]
    exact hdead
  rw [hid, ← hshared, hnone] at hlive
  cases hlive

end FaithfulRun

end Turnstile
