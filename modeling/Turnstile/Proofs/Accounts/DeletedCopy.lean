import Turnstile.Proofs.Accounts.Deletion
import Turnstile.Proofs.Accounts.StaleCopy
import Turnstile.Proofs.Sessions.SignOut

namespace Turnstile

open Credential (Hasher)

/-!
# An update of a deleted user

A request may still hold a copy of a user who has been deleted in the meantime. Its update changes
nothing, but what it is told depends on who has come since: saving looks at the address before it looks
for the row.

* `Accounts.LateFailure` lists the failures of such an update, each with when it comes.
* `Accounts.update_of_deleted`: these are all, and the store stays as it is.
* `Accounts.TellsDeletion` is what one might expect instead, and `Accounts.not_tellsDeletion` refutes it:
  somebody else has signed up with the address of the deleted user.
-/

namespace Accounts

/-! ### How such an update fails -/

/-- A live user has the address of the record. -/
def TakenOver (S : Store) (u : User) : Prop :=
  u.email.isSome = true ∧ ∃ v ∈ S.users, v.isLive = true ∧ v.email = u.email

/-- A draft supplies no address, or that of the record. -/
def KeepsAddress (u : User) (d : UserDraft) : Prop :=
  ∀ raw, d.email = some raw → u.email = some (Email.canonical raw)

/-- What an update of a deleted user fails with: a password that cannot be hashed counts first, then an
    address that a live user has by now. Only then the user is not found. -/
inductive LateFailure (h : Hasher) (salt : Credential.Salt) (S : Store) (u : User) (d : UserDraft) :
    ServiceFailure → Prop where
  | unhashed {e : Credential.CredentialError} (refused : NewHash h salt d.password (.error e)) :
      LateFailure h salt S u d (.credential updateContext e)
  | takenOver {hash : Option String} (hashed : NewHash h salt d.password (.ok hash))
      (taken : TakenOver S u) :
      LateFailure h salt S u d
        (.repository updateContext (.uniqueViolation "user repo save" (some "uq_users_email")))
  | notFound {hash : Option String} (hashed : NewHash h salt d.password (.ok hash))
      (free : ¬ TakenOver S u) : LateFailure h salt S u d (.rejected .userNotFound)

section Update

variable {h : Hasher} {o : Surroundings} {S : Store} {u row : User} {d : UserDraft}

/-- Hashing a password comes to one end only. -/
theorem NewHash.unique {salt : Credential.Salt} {password : Option String}
    {result result' : Except Credential.CredentialError (Option String)}
    (new : NewHash h salt password result)
    (new' : NewHash h salt password result') : result = result' := by
  cases new with
  | absent =>
    cases new'
    rfl
  | made create | refused create =>
    cases new' with
    | made create' | refused create' => cases create.symm.trans create' <;> rfl

/-- An update of a deleted user fails with one of these failures only. -/
theorem LateFailure.unique {salt : Credential.Salt} {f f' : ServiceFailure}
    (late : LateFailure h salt S u d f) (late' : LateFailure h salt S u d f') : f = f' := by
  cases late with
  | unhashed refused =>
    cases late' with
    | unhashed refused' =>
      cases refused.unique refused'
      rfl
    | takenOver hashed' | notFound hashed' => cases refused.unique hashed'
  | takenOver hashed taken =>
    cases late' with
    | unhashed refused' => cases hashed.unique refused'
    | takenOver => rfl
    | notFound _ free => exact absurd taken free
  | notFound hashed free =>
    cases late' with
    | unhashed refused' => cases hashed.unique refused'
    | takenOver _ taken => exact absurd taken free
    | notFound => rfl

/-! ### The update -/

/-- An address that is kept is not looked up. -/
theorem runOn_takeEmail_of_keeps (keeps : KeepsAddress u d) :
    (takeEmail (storedForms d) u).runOn o S = (.ok u, S) := by
  unfold takeEmail
  cases hemail : (storedForms d).email with
  | none => rfl
  | some email =>
    obtain ⟨raw, hraw, rfl⟩ := Option.map_eq_some_iff.1 hemail
    simp only [if_pos (keeps raw hraw)]
    rfl

/-- What is saved then has the key and the address of the record. -/
theorem exists_runOn_save (keeps : KeepsAddress u d) {hash : Option String}
    (new : NewHash h (o .salt) d.password (.ok hash)) : ∃ w : User,
      (change h (storedForms d) u).runOn o S = (save w).runOn o S ∧ w.id = u.id ∧ w.email = u.email := by
  rw [change, Service.runOn_bind, runOn_takeEmail_of_keeps keeps, Service.goOn_ok, Service.runOn_bind,
    runOn_takePassword new]
  exact ⟨_, rfl, rfl, rfl⟩

/-- Whose address is in use by others, where the row with the key is marked as deleted. -/
theorem emailTaken_iff_takenOver (keyed : S.Keyed) (hrow : row ∈ S.users) (dead : row.isLive = false)
    (hid : u.id = row.id) : S.emailTaken u.email u.id = true ↔ TakenOver S u := by
  rw [← not_iff_not, Bool.not_eq_true, Store.emailTaken_eq_false_iff]
  constructor
  · rintro own ⟨hsome, v, hv, live, hemail⟩
    exact keyed.id_ne_of_dead hrow dead hv live ((own hsome v hv live hemail).trans hid)
  · intro free hsome v hv live hemail
    exact absurd ⟨hsome, v, hv, live, hemail⟩ free

/-- Nobody is saved, and the failure of the save is what the update is told. -/
theorem runOn_save_of_gone (key : u.id ≠ 0) (gone : S.liveUser? u.id = none) :
    (save u).runOn o S = (.error (if S.emailTaken u.email u.id then
        .repository updateContext (.uniqueViolation "user repo save" (some "uq_users_email"))
      else .rejected .userNotFound), S) := by
  have hcontext : (UserCall.save u).context = "user repo save" := if_neg key
  rw [save, Service.runOn_bind, Service.runOn_perform]
  show Service.goOn o _ (.ok (S.callUsers (.save u)).1, (S.callUsers (.save u)).2) = _
  rw [Store.save_of_gone key gone, Store.emailViolation, hcontext]
  split <;> rfl

/-- **An update of a deleted user** fails, and leaves the store as it is. -/
theorem runOn_update_of_dead (r : Request) (o : Surroundings) (active : Option Session) (keyed : S.Keyed)
    (hrow : row ∈ S.users) (dead : row.isLive = false) (hid : u.id = row.id)
    (valid : ∀ rejection, ¬ FirstFault d rejection) (keeps : KeepsAddress u d) :
    ∃ f, LateFailure h (o .salt) S u d f ∧
      (update h r (some u) active (some d)).runOn o S = (.error f, S) := by
  have key : u.id ≠ 0 := by
    rw [hid]
    exact Int.ne_of_gt (keyed.handed_of_mem hrow).1
  have gone : S.liveUser? u.id = none := by
    rw [hid]
    exact keyed.liveUser?_of_dead hrow dead
  obtain ⟨result, new⟩ := exists_newHash h (o .salt) d.password
  rw [runOn_update h r u active (check_of_no_fault valid)]
  cases result with
  | error e =>
    refine ⟨_, .unhashed new, ?_⟩
    rw [change, Service.runOn_bind, runOn_takeEmail_of_keeps keeps, Service.goOn_ok, Service.runOn_bind,
      runOn_takePassword new]
    rfl
  | ok hash =>
    obtain ⟨w, hchange, hwid, hwemail⟩ := exists_runOn_save (S := S) keeps new
    have hsave := runOn_save_of_gone (o := o) (hwid ▸ key) (hwid ▸ gone)
    rw [hwid, hwemail] at hsave
    rw [hchange, hsave, Service.goOn_error]
    refine ⟨_, ?_, rfl⟩
    by_cases taken : S.emailTaken u.email u.id = true
    · rw [if_pos taken]
      exact .takenOver new ((emailTaken_iff_takenOver keyed hrow dead hid).1 taken)
    · rw [if_neg taken]
      exact .notFound new (mt (emailTaken_iff_takenOver keyed hrow dead hid).2 taken)

end Update

/-- **What an update of a deleted user comes back with**, in every store that a run has led to: it changes
    nothing and fails, and the user is not found exactly if no live user has the address and the password
    can be hashed. -/
theorem update_of_deleted {h : Hasher} {T : Trace Store}
    {c : Crowd Store (Request × Job) (Except ServiceFailure Value)} {u row : User} {d : UserDraft}
    (run : (service h).Run .nobody T c) (hrow : row ∈ c.shared.users) (dead : row.isLive = false)
    (hid : u.id = row.id) (valid : ∀ rejection, ¬ FirstFault d rejection) (keeps : KeepsAddress u d)
    (r : Request) (o : Surroundings) (active : Option Session) :
    (∃ f, (update h r (some u) active (some d)).runOn o c.shared = (.error f, c.shared)) ∧
      ∀ f, ((update h r (some u) active (some d)).runOn o c.shared).1 = .error f ↔
        LateFailure h (o .salt) c.shared u d f := by
  obtain ⟨f, late, hfails⟩ := runOn_update_of_dead r o active (keyed_of_run run) hrow dead hid valid keeps
  refine ⟨⟨f, hfails⟩, fun f' => ⟨?_, fun late' => ?_⟩⟩
  · rw [hfails]
    rintro ⟨⟩
    exact late
  · rw [hfails, late.unique late']

/-! ### An address that was taken over -/

/-- The store behind the deletion of `ann`. -/
def deletedStore : Store := ((delete (.new "r" .epoch) (some ann)).runOn (.calm .epoch) addressStore).2

/-- The store behind another sign-up with the address. -/
def takenOverStore : Store :=
  ((enter plainHasher (.new "r" .epoch) ⟨some "ann@example.com", none, none, none⟩).runOn (.calm .epoch)
    deletedStore).2

/-- A user signs up, is looked up, and is deleted; then somebody else signs up with the same address. -/
theorem run_takenOver : ∃ T ts before after, (service plainHasher).Run .nobody T ⟨takenOverStore, ts⟩ ∧
    (1, ⟨.users (.getById 1), .ok (some ann), before, after⟩) ∈ T := by
  obtain ⟨T₀, value, signedUp⟩ := run_addressSignUp
  -- the lookup
  have launched := signedUp.launch (.new "r" .epoch, .getUser 1)
  have hfound : addressStore.callUsers (.getById 1) = (.ok (some ann), addressStore) := by
    show (Except.ok ((addressStore.liveUser? 1).map User.refreshPasswordSet), addressStore) = _
    rw [liveUser?_ann]
    rfl
  have looked := launched.step (i := 1) ⟨.users (.getById 1), .ok (some ann), addressStore, addressStore⟩
    rfl rfl (.inl hfound)
  -- the deletion, and the other sign-up
  have relaunched := looked.launch (.new "r" .epoch, .deleteUser (some ann))
  obtain ⟨T₂, deleted, -⟩ := relaunched.undisturbed (i := 2) (.calm .epoch) rfl
  have last := deleted.launch (.new "r" .epoch, .signUp (some addressDraft))
  rw [program_addressSignUp] at last
  obtain ⟨T₃, signedUpAgain, -⟩ := last.undisturbed (i := 3) (.calm .epoch) rfl
  exact ⟨_, _, addressStore, addressStore, signedUpAgain, by simp⟩

/-- The row of the deleted user is still there. -/
theorem exists_row_ann : ∃ row ∈ takenOverStore.users, ann.id = row.id ∧ row.isLive = false := by
  decide +kernel

theorem takenOver_ann : TakenOver takenOverStore ann := by
  unfold TakenOver
  decide +kernel

theorem keepsAddress_naming : KeepsAddress ann naming.draft := by
  rintro raw ⟨⟩

theorem valid_naming (rejection : Rejection) : ¬ FirstFault naming.draft rejection := by
  intro first
  have hcheck := check_eq_error_iff.2 first
  rw [check_naming] at hcheck
  cases hcheck

theorem update_of_deleted_takenOver : ∃ T c row, (service plainHasher).Run .nobody T c ∧
    row ∈ c.shared.users ∧ row.isLive = false ∧ ann.id = row.id ∧
    (∀ rejection, ¬ FirstFault naming.draft rejection) ∧ KeepsAddress ann naming.draft ∧
    ((update plainHasher (.new "r" .epoch) (some ann) none (some naming.draft)).runOn (.calm .epoch)
        c.shared).1
      = .error (.repository updateContext (.uniqueViolation "user repo save" (some "uq_users_email"))) := by
  obtain ⟨T, ts, before, after, run, -⟩ := run_takenOver
  obtain ⟨row, hrow, hid, dead⟩ := exists_row_ann
  obtain ⟨-, exactly⟩ := update_of_deleted run hrow dead hid valid_naming keepsAddress_naming
    (.new "r" .epoch) (.calm .epoch) none
  exact ⟨T, _, row, run, hrow, dead, hid, valid_naming, keepsAddress_naming,
    (exactly _).2 (.takenOver .absent takenOver_ann)⟩

/-! ### What one might expect -/

/-- An update of a copy that was loaded before the user was deleted is told that the user is not found,
    whatever has become of the address. -/
def TellsDeletion (h : Hasher) : Prop :=
  ∀ (T : Trace Store) (c : Crowd Store (Request × Job) (Except ServiceFailure Value)) (i : Nat)
    (x : Exchange Store) (u row : User) (d : UserDraft) (r : Request) (o : Surroundings)
    (active : Option Session), (service h).Run .nobody T c → (i, x) ∈ T → x.Finds u →
    row ∈ c.shared.users → u.id = row.id → row.isLive = false →
    (∀ rejection, ¬ FirstFault d rejection) → KeepsAddress u d →
    (update h r (some u) active (some d)).runOn o c.shared = (.error (.rejected .userNotFound), c.shared)

/-- **It may be told of a violation instead**, if somebody else has signed up with the address. -/
theorem not_tellsDeletion : ¬ TellsDeletion plainHasher := by
  intro claim
  obtain ⟨T, ts, before, after, run, hmem⟩ := run_takenOver
  obtain ⟨row, hrow, hid, dead⟩ := exists_row_ann
  have htold := claim T _ 1 _ ann row naming.draft (.new "r" .epoch) (.calm .epoch) none run hmem
    (.byKey 1 before after) hrow hid dead valid_naming keepsAddress_naming
  -- but this is another failure than the one that there is
  obtain ⟨f, late, hfails⟩ := runOn_update_of_dead (h := plainHasher) (.new "r" .epoch) (.calm .epoch) none
    (keyed_of_run run) hrow dead hid valid_naming keepsAddress_naming
  obtain rfl := late.unique (.takenOver .absent takenOver_ann)
  rw [hfails] at htold
  cases htold

end Accounts

end Turnstile
