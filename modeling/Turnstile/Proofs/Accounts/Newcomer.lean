import Turnstile.Proofs.Service.Rejected

namespace Turnstile

open Credential (Hasher)

/-!
# Who an update adds

An update saves the record that it was given, and saving a record without a key inserts it. So an update of a
user who was never saved signs the user up, unless something else is wrong.

The tables here are those in memory, where nothing can be saved under a key that no live row has. On a server
such a save inserts a row too, unless a row that is marked as deleted has the key (`Postgres.save_unknown`,
`Postgres.saved_of_upserts`).

* `Store.SameUsers`: plain questions leave the table of users alone (`Store.Answers.sameUsers`), and so do
  several of them (`Chained.sameUsers`).
* `Accounts.AfterSave` says what the save may do to it, and `Accounts.AfterSave.admission` that this decides.
* `Accounts.Admission` says what becomes of the table of users, and `Accounts.update_admission` is the proof.
* `Accounts.CreatesNobody` is what one might expect instead, and `Accounts.not_createsNobody` refutes it.
-/

/-! ### Plain questions -/

/-- The users of both stores, and the key that comes next, are the same. -/
structure Store.SameUsers (s s' : Store) : Prop where
  users : s'.users = s.users
  lastUser : s'.lastUser = s.lastUser

section Plain

variable {s s' t : Store} {xs ys : List (Exchange Store)}

/-- A plain question leaves the users alone. -/
theorem Store.Answers.sameUsers {e : Effect} {answer : e.Answer} (answers : s.Answers e answer s')
    (plain : e.Plain) : s.SameUsers s' := by
  rcases answers.cases with rfl | hwrites
  · exact ⟨rfl, rfl⟩
  · -- of all changes, only the deletion of a session is made by a plain question
    cases hwrites with
    | insertUser call u hcall => rcases hcall with rfl | ⟨rfl, -⟩ <;> exact plain.elim
    | replaceUser | markUser | insertSession => exact plain.elim
    | markSession => exact ⟨rfl, rfl⟩

/-- So do several of them. -/
theorem Chained.sameUsers (hxs : Chained s xs s')
    (answers : ∀ x ∈ xs, x.before.Answers x.effect x.answer x.after)
    (plain : ∀ x ∈ xs, x.effect.Plain) : s.SameUsers s' := by
  induction xs generalizing s with
  | nil =>
    obtain rfl : s' = s := hxs
    exact ⟨rfl, rfl⟩
  | cons x xs ih =>
    obtain ⟨rfl, hrest⟩ := hxs
    have hfirst := (answers x List.mem_cons_self).sameUsers (plain x List.mem_cons_self)
    have hlast := ih hrest (fun y hy => answers y (List.mem_cons_of_mem x hy))
      fun y hy => plain y (List.mem_cons_of_mem x hy)
    exact ⟨hlast.users.trans hfirst.users, hlast.lastUser.trans hfirst.lastUser⟩

theorem chained_append : Chained s (xs ++ ys) t ↔ ∃ s', Chained s xs s' ∧ Chained s' ys t := by
  induction xs generalizing s with
  | nil => exact ⟨fun h => ⟨s, rfl, h⟩, fun ⟨s', hs, h⟩ => (show s' = s from hs) ▸ h⟩
  | cons x xs ih =>
    show (x.before = s ∧ Chained x.after (xs ++ ys) t) ↔ ∃ s', (x.before = s ∧ Chained x.after xs s') ∧ _
    simp only [ih, and_assoc, exists_and_left]

end Plain

namespace Accounts

/-! ### What becomes of the users -/

/-- **Who an update adds** to the tables in memory, from any store and whatever it is answered. -/
structure Admission (s : Store) (user : Option User) (value : Except ServiceFailure Value)
    (s' : Store) : Prop where
  /-- A record with a key adds nobody. -/
  kept : (∀ u, user = some u → u.id ≠ 0) → s'.users.map User.id = s.users.map User.id
  /-- If the update of such a record succeeds, there is a live row with the key, and what comes back has
      it. -/
  known : ∀ u v, user = some u → u.id ≠ 0 → value = .ok v →
    ∃ saved, v = .user saved ∧ saved.id = u.id ∧ (s.liveUser? u.id).isSome = true
  /-- A record without a key adds nobody and the update fails, or it is added under the next key; and if the
      update succeeds, this is what comes back. -/
  added : ∀ u, user = some u → u.id = 0 →
    s'.users = s.users ∧ (∀ v, value ≠ .ok v) ∨
      ∃ saved, s'.users = s.users ++ [Store.keptUser saved] ∧ saved.id = s.lastUser + 1 ∧
        ∀ v, value = .ok v → v = .user saved

/-! ### One save -/

/-- What a save that was answered has done to the users. -/
inductive AfterSave (s : Store) (w : User) (s' : Store) : Except RepositoryFailure User → Prop where
  | failed (f : RepositoryFailure) (same : s' = s) : AfterSave s w s' (.error f)
  | inserted (saved : User) (keyless : w.id = 0) (users : s'.users = s.users ++ [Store.keptUser saved])
      (next : saved.id = s.lastUser + 1) : AfterSave s w s' (.ok saved)
  | replaced (saved : User) (key : w.id ≠ 0) (live : (s.liveUser? w.id).isSome = true)
      (ids : s'.users.map User.id = s.users.map User.id) (same : saved.id = w.id) :
      AfterSave s w s' (.ok saved)

theorem afterSave_of_answers {s s' : Store} {w : User} {answer : Except RepositoryFailure User}
    (answers : s.Answers (.users (.save w)) answer s') : AfterSave s w s' answer := by
  rcases answer with f | saved
  · exact .failed f answers.eq_of_error
  have hcall : s.callUsers (.save w) = (.ok saved, s') := answers.callUsers_of_ok
  by_cases key : w.id = 0
  · have hcreate := hcall
    simp only [Store.callUsers, if_pos key] at hcreate
    obtain ⟨rfl, husers⟩ := Store.create_user_ok hcreate
    exact .inserted _ key husers rfl
  · obtain ⟨row, live, -, -⟩ := Store.replace_user_ok hcall key
    exact .replaced saved key (Option.isSome_iff_exists.2 ⟨row, live⟩) (Store.replace_user_ids hcall key)
      (Store.save_user_ok hcall key)

/-! ### One update -/

section Call

variable {h : Hasher} {r : Request} {s s' : Store} {xs : List (Exchange Store)} {user : Option User}
  {active : Option Session} {draft : Option UserDraft} {value : Except ServiceFailure Value}

/-- If the users are left alone before and after the save, the save decides. -/
theorem AfterSave.admission {b a : Store} {u w : User} {answer : Except RepositoryFailure User}
    (hsave : AfterSave b w a answer) (before : s.SameUsers b) (after : a.SameUsers s') (hid : w.id = u.id)
    (given : ∀ v, value = .ok v → ∃ saved, answer = .ok saved ∧ v = .user saved) :
    Admission s (some u) value s' := by
  cases hsave with
  | failed f same =>
    have husers : s'.users = s.users := by rw [after.users, same, before.users]
    have fails (v : Value) (hv : value = .ok v) : False := by
      obtain ⟨_, hok, -⟩ := given v hv
      cases hok
    exact ⟨fun _ => by rw [husers], fun _ v _ _ hv => (fails v hv).elim, fun _ _ _ => .inl ⟨husers, fails⟩⟩
  | inserted saved keyless users next =>
    have hzero : u.id = 0 := hid.symm.trans keyless
    refine ⟨fun key => absurd hzero (key u rfl), ?_, fun _ _ _ => .inr ⟨saved, ?_, ?_, ?_⟩⟩
    · rintro _ v ⟨⟩ key
      exact absurd hzero key
    · rw [after.users, users, before.users]
    · rw [next, before.lastUser]
    · intro v hv
      obtain ⟨_, ⟨⟩, rfl⟩ := given v hv
      rfl
  | replaced saved key live ids same =>
    rw [hid] at key live same
    refine ⟨fun _ => by rw [after.users, ids, before.users], ?_, ?_⟩
    · rintro _ v ⟨⟩ - hv
      obtain ⟨_, ⟨⟩, rfl⟩ := given v hv
      rw [Store.liveUser?, before.users] at live
      exact ⟨saved, rfl, same, live⟩
    · rintro _ ⟨⟩ hzero
      exact absurd hzero key

/-- **What an update does to the table of users** in memory, whatever record and draft it is given. -/
theorem update_admission (call : Call h r (.update user active draft) s xs value s') :
    Admission s user value s' := by
  obtain ⟨leads, chained, answers⟩ := call
  obtain ⟨result, hupdate, rfl⟩ := Service.leads_map.1 (show
    (update h r user active draft >>= fun u => pure (Value.user u) : Service Value).run.Leads xs
      (.done value)
    from leads)
  cases update_course hupdate with
  | unsaved failed plain =>
    have same := chained.sameUsers answers plain
    have fails (v : Value) : result.map Value.user ≠ .ok v := by
      rcases result with f | u
      · exact fun hv => nomatch hv
      · exact absurd rfl (failed u)
    exact ⟨fun _ => by rw [same.users], fun _ v _ _ hv => absurd hv (fails v),
      fun _ _ _ => .inl ⟨same.users, fails⟩⟩
  | @saved ys zs u w d fields answer before after hu hd hfields saves plainBefore plainAfter settled =>
    subst hu
    -- what is asked before the save and behind it is plain
    obtain ⟨t, hys, rfl, hzs⟩ := chained_append.1 chained
    have hsave := afterSave_of_answers (answers _ (List.mem_append_right ys List.mem_cons_self))
    refine hsave.admission
      (hys.sameUsers (fun y hy => answers y (List.mem_append_left _ hy)) plainBefore)
      (hzs.sameUsers (fun z hz => answers z (List.mem_append_right _ (List.mem_cons_of_mem _ hz)))
        plainAfter)
      saves.id_eq fun v hv => ?_
    rcases result with f | saved
    · cases hv
    · cases hv
      exact ⟨saved, settled saved rfl, rfl⟩

end Call

/-! ### A user who was never saved -/

theorem runOn_update_newcomer :
    (Job.program plainHasher (.new "r" .epoch) (.update (some User.new) none (some addressDraft))).runOn
      (.calm .epoch) .empty = (.ok (.user ann), addressStore) := by
  show (update _ _ _ _ _ >>= _ : Service Value).runOn _ _ = _
  rw [update_of_check check_addressDraft]
  rfl

theorem update_admission_newcomer : ∃ xs, Call plainHasher (.new "r" .epoch)
      (.update (some User.new) none (some addressDraft)) .empty xs (.ok (.user ann)) addressStore ∧
    Admission .empty (some User.new) (.ok (.user ann)) addressStore := by
  obtain ⟨xs, call⟩ := call_of_runOn plainHasher (.new "r" .epoch)
    (.update (some User.new) none (some addressDraft)) (.calm .epoch) .empty
  rw [runOn_update_newcomer] at call
  exact ⟨xs, call, update_admission call⟩

/-! ### What one might expect -/

/-- An update adds nobody: it leaves the keys of the table alone, and does not succeed for a user without
    a live row. -/
def CreatesNobody (h : Hasher) : Prop :=
  ∀ (r : Request) (user : Option User) (active : Option Session) (draft : Option UserDraft) (s s' : Store)
    (xs : List (Exchange Store)) (value : Except ServiceFailure Value),
    Call h r (.update user active draft) s xs value s' →
    s'.users.map User.id = s.users.map User.id ∧
      ∀ u, user = some u → s.liveUser? u.id = none → ∀ v, value ≠ .ok v

/-- **An update can add a user**: one who was never saved. -/
theorem not_createsNobody : ¬ CreatesNobody plainHasher := by
  intro claim
  obtain ⟨xs, call⟩ := call_of_runOn plainHasher (.new "r" .epoch)
    (.update (some User.new) none (some addressDraft)) (.calm .epoch) .empty
  rw [runOn_update_newcomer] at call
  exact (claim _ _ _ _ _ _ _ _ call).2 User.new rfl rfl (.user ann) rfl

end Accounts

end Turnstile
