import Turnstile.Proofs.Service.WellFormed
import Turnstile.Proofs.Sessions.SignOutReach
import Turnstile.Proofs.Store.Plaintext

namespace Turnstile

open Credential (Hasher)

/-- In every run from the empty store, no row has plain text. -/
theorem Store.plainless_of_run {h : Hasher} {T : Trace Store}
    {c : Crowd Store (Request × Job) (Except ServiceFailure Value)} (run : (service h).Run .nobody T c) :
    c.shared.Plainless := by
  refine run.invariant Store.empty_plainless fun x hx plainless => ?_
  rcases hx.cases with hsame | writes
  · rwa [hsame]
  · exact writes.plainless plainless

namespace Accounts

open Update (put)

/-!
# An update of an up-to-date copy

What an update does by itself, in a store that a run has led to, if it is given the user as it is.

* `FreshCopy` is a user as looking it up gives it; whether the address is verified is up to the caller.
* `Fault` lists what an update is rejected for, the first fault in the order of the fields and then an
  address that another live user has.
* `Revised` is the record with the supplied fields put in, and `Applies` says what else becomes of the store.
* `runOn_change` is the update up to the save. `update_fresh_exact` is the whole: it is rejected exactly
  if there is a fault, and otherwise the row becomes the revised record.
-/

/-! ### What is expected -/

/-- The user as it comes from a lookup, but for the mark of the address. -/
def FreshCopy (S : Store) (u : User) : Prop :=
  ∃ o u₀, ((get u.id).runOn o S).1 = .ok u₀ ∧ u = { u₀ with emailVerified := u.emailVerified }

/-- A draft asks for another address, and another live user has it. -/
def TakenByOther (S : Store) (u : User) (d : UserDraft) : Prop :=
  ∃ raw, d.email = some raw ∧ u.email ≠ some (Email.canonical raw) ∧
    ∃ v ∈ S.users, v.isLive = true ∧ v.id ≠ u.id ∧ v.email = some (Email.canonical raw)

/-- What an update of the copy is rejected for. -/
inductive Fault (S : Store) (u : User) : Option UserDraft → Rejection → Prop where
  | paramsMissing : Fault S u none .userUpdateParamsMissing
  | invalid {d : UserDraft} {r : Rejection} (first : FirstFault d r) : Fault S u (some d) r
  | taken {d : UserDraft} (valid : ∀ r, ¬ FirstFault d r) (taken : TakenByOther S u d) :
      Fault S u (some d) .userEmailExists

/-- The copy with the supplied fields of a draft in their stored forms, and with a hash of the password if
    one was supplied. -/
structure Revised (h : Hasher) (d : UserDraft) (u saved : User) : Prop where
  same : saved.id = u.id ∧ saved.createdAt = u.createdAt ∧ saved.deletedAt = u.deletedAt
  email : saved.email = (d.email.map Email.canonical <|> u.email)
  emailVerified : saved.emailVerified = if saved.email = u.email then u.emailVerified else false
  givenNames : saved.givenNames = (d.givenNames.map PersonName.canonical <|> u.givenNames)
  surname : saved.surname = (d.surname.map PersonName.canonical <|> u.surname)
  kept : d.password = none → saved.passwordHash = u.passwordHash
  hashed : ∀ password, d.password = some password →
    ∃ hash, saved.passwordHash = some hash ∧ h.compare hash password = true
  plain : saved.password = none ∧ saved.passwordSet = saved.passwordHash.isSome

/-- What an update that succeeds leaves behind: the row of the user is the revised record, no other row of
    a user has changed, and with a new password, whatever the old one was, the other sessions of the user
    have ended. -/
structure Applies (h : Hasher) (now : Instant) (S : Store) (u : User) (active : Option Session)
    (d : UserDraft) (saved : User) (S' : Store) : Prop where
  revised : Revised h d u saved
  stored : S'.liveUser? u.id = some saved
  users : S'.users = S.users.map fun v => if v.id = u.id then saved else v
  found : ∀ o, (get u.id).runOn o S' = (.ok saved, S')
  sessions : d.password = none → S'.sessions = S.sessions
  signedOut : d.password.isSome = true →
    ∃ count, SignsOut u.id active now { S with users := S'.users } S' count

/-- What the answer of an update and the store behind it say about the draft and the store before. -/
structure ExactUpdate (h : Hasher) (now : Instant) (S : Store) (u : User) (active : Option Session)
    (draft : Option UserDraft) (answer : Except ServiceFailure User) (S' : Store) : Prop where
  /-- It is rejected exactly if there is a fault. -/
  rejected : ∀ r, answer = .error (.rejected r) ↔ Fault S u draft r
  /-- Otherwise it succeeds, as long as no password is longer than can be hashed, -/
  succeeds : (∀ r, ¬ Fault S u draft r) →
    (∀ d password, draft = some d → d.password = some password →
      password.utf8ByteSize ≤ Credential.secretLimit) →
    ∃ saved, answer = .ok saved
  /-- and then the draft has been applied. -/
  applies : ∀ saved, answer = .ok saved → ∃ d, draft = some d ∧ Applies h now S u active d saved S'
  /-- If it fails, it has changed nothing; and if it is not rejected, the password could not be hashed. -/
  kept : ∀ f, answer = .error f → S' = S ∧ ((∃ r, f = .rejected r) ∨
    ∃ d password e, draft = some d ∧ d.password = some password ∧
      Credential.secretLimit < password.utf8ByteSize ∧ f = .credential updateContext e)

/-! ### The copy -/

variable {h : Hasher} {r : Request} {o : Surroundings} {S : Store} {u row : User} {d : UserDraft}
  {fields : Fields} {active : Option Session}

/-- A store in good order, and a live row in it with a copy of it. -/
structure Copies (S : Store) (row u : User) : Prop where
  keyed : S.Keyed
  unique : S.UniqueEmails
  key : u.id ≠ 0
  live : S.liveUser? u.id = some row
  copy : u = { row.refreshPasswordSet with emailVerified := u.emailVerified }
  plain : row.password = none

/-- A fresh copy is one of a live row. -/
theorem FreshCopy.copies {T : Trace Store} {c : Crowd Store (Request × Job) (Except ServiceFailure Value)}
    (copy : FreshCopy c.shared u) (run : (service h).Run .nobody T c) : ∃ row, Copies c.shared row u := by
  obtain ⟨o, u₀, hget, hcopy⟩ := copy
  have key : u.id ≠ 0 := by
    intro hzero
    rw [hzero] at hget
    cases hget
  rw [runOn_get key] at hget
  cases live : c.shared.liveUser? u.id with
  | none =>
    rw [live] at hget
    cases hget
  | some row =>
    rw [live] at hget
    cases hget
    have hplain := (Store.plainless_of_run run).users row (List.mem_of_find?_eq_some live)
    exact ⟨row, keyed_of_run run, Store.uniqueEmails_of_run run, key, live, hcopy, hplain⟩

namespace Copies

variable (copies : Copies S row u)

include copies

theorem email_eq : u.email = row.email := by rw [copies.copy]; rfl

theorem isLive_row : row.isLive = true := (Store.isLiveUser_iff.1 (List.find?_some copies.live)).2

theorem isLive : u.isLive = true := by
  rw [copies.copy]
  exact copies.isLive_row

theorem plain_copy : u.password = none := by
  rw [copies.copy]
  exact copies.plain

/-- The row with the key is the live row. -/
theorem isLiveUser_iff {v : User} (hv : v ∈ S.users) : Store.isLiveUser u.id v = true ↔ v.id = u.id := by
  obtain ⟨hrow, hid, hlive⟩ := (Store.liveUser?_eq_some copies.keyed.nodup_users).1 copies.live
  rw [Store.isLiveUser_iff]
  refine ⟨And.left, fun heq => ⟨heq, ?_⟩⟩
  rwa [List.inj_on_of_nodup_map copies.keyed.nodup_users hv hrow (heq.trans hid.symm)]

end Copies

/-! ### Up to the save -/

/-- An address that is free is put in, and is unverified if it is another one. -/
theorem Copies.runOn_takeEmail (copies : Copies S row u) (free : S.emailTaken fields.email u.id = false) :
    (takeEmail fields u).runOn o S = (.ok { u with
      email := fields.email <|> u.email
      emailVerified := u.emailVerified && (fields.email.isNone || u.email == fields.email) }, S) := by
  unfold takeEmail
  cases hemail : fields.email with
  | none => simp
  | some email =>
    by_cases same : u.email = some email
    · simp only [if_pos same]
      rw [Service.runOn_pure]
      simp [← same]
    · have hnone : S.callUsers (.getByEmail email) = (.ok none, S) :=
        Store.getByEmail_of_free copies.keyed (hemail ▸ free) copies.live (copies.email_eq ▸ same)
      simp only [if_neg same]
      rw [Service.runOn_bind, requireFree, Service.runOn_bind, Service.runOn_users, hnone]
      show (Except.ok _, S) = _
      simp [same]

/-- An address that somebody has may not be taken. -/
theorem runOn_takeEmail_of_found {email : String} {v : User} (hemail : fields.email = some email)
    (other : u.email ≠ some email) (found : S.callUsers (.getByEmail email) = (.ok (some v), S)) :
    (takeEmail fields u).runOn o S = (.error (.rejected .userEmailExists), S) := by
  unfold takeEmail
  simp only [hemail, if_neg other]
  rw [Service.runOn_bind, requireFree, Service.runOn_bind, Service.runOn_users, found]
  rfl

/-- Saving a live user under an address that is free for it. -/
theorem runOn_save {w : User} (key : w.id ≠ 0) (live : S.liveUser? w.id = some row)
    (free : S.emailTaken w.email w.id = false) :
    (save w).runOn o S = (.ok (Store.changedUser row w), { S with
      users := Store.changeFirst (Store.isLiveUser w.id) (fun _ => Store.keptUser (Store.changedUser row w))
        S.users }) := by
  have hsave : S.callUsers (.save w) = (.ok (Store.changedUser row w), { S with
      users := Store.changeFirst (Store.isLiveUser w.id) (fun _ => Store.keptUser (Store.changedUser row w))
        S.users }) := by
    simp only [Store.callUsers, if_neg key, Store.saveUser, free, live]
    rfl
  rw [save, Service.runOn_bind, Service.runOn_perform]
  show Service.goOn o _ (.ok (S.callUsers (.save w)).1, (S.callUsers (.save w)).2) = _
  rw [hsave]
  rfl

/-- The record that an update of the copy saves. -/
def revision (fields : Fields) (hash : Option String) (u : User) : User :=
  (put fields hash u).refreshPasswordSet

/-- The store with another record in the place of the user's row. -/
def withRow (S : Store) (saved : User) : Store :=
  { S with users := S.users.map fun v => if v.id = saved.id then saved else v }

theorem withRow_keyed (keyed : S.Keyed) (saved : User) : (withRow S saved).Keyed := by
  refine ⟨?_, keyed.sessions⟩
  show (S.users.map _).map User.id = Store.firstKeys S.lastUser
  rw [List.map_map, ← keyed.users]
  refine List.map_congr_left fun v _ => ?_
  by_cases hv : v.id = saved.id <;> simp [hv]

/-- The address of the copy or of the draft is free for the user. -/
theorem Copies.free (copies : Copies S row u) (hash : Option String)
    (free : S.emailTaken fields.email u.id = false) :
    S.emailTaken (put fields hash u).email u.id = false := by
  show S.emailTaken (fields.email <|> u.email) u.id = false
  cases hemail : fields.email with
  | none =>
    have hown := copies.unique.free copies.keyed copies.live
    rwa [← copies.email_eq] at hown
  | some email => rwa [hemail] at free

/-- Another record with the key of the copy takes the place of the row. -/
theorem Copies.replaced (copies : Copies S row u) (saved : User) (key : saved.id = u.id)
    (live : saved.isLive = true) : Store.Replaced S u.id saved (withRow S saved) := by
  refine ⟨?_, Store.isLiveUser_iff.2 ⟨key, live⟩⟩
  rw [Store.changeFirst_eq_map (copies.keyed.pairwise_isLiveUser u.id)]
  refine List.map_congr_left fun v hv => ?_
  simp only [copies.isLiveUser_iff hv, key]

/-- **Up to the save**, an update of a copy with a checked draft puts the revision in the place of the
    row. -/
theorem runOn_change (copies : Copies S row u) {hash : Option String}
    (free : S.emailTaken fields.email u.id = false)
    (new : NewHash h (o .salt) fields.password (.ok hash)) :
    (change h fields u).runOn o S = (.ok (revision fields hash u), withRow S (revision fields hash u)) := by
  -- the row that is kept is the revision: it is as old as the row was, and has no plain password
  have hsaved : Store.changedUser row (put fields hash u) = revision fields hash u := by
    have hcreated : row.createdAt = u.createdAt := by rw [copies.copy]; rfl
    rw [Store.changedUser, hcreated]
    rfl
  have hplain : Store.keptUser (revision fields hash u) = revision fields hash u := by
    have hnone : (revision fields hash u).password = none := by
      show (if hash.isSome then none else u.password) = none
      rw [copies.plain_copy, ite_self]
    rw [Store.keptUser, ← hnone]
  have husers := (copies.replaced (revision fields hash u) rfl copies.isLive).users
  have hsave := runOn_save (o := o) (w := put fields hash u) copies.key copies.live (copies.free hash free)
  rw [hsaved, hplain] at hsave
  rw [change, Service.runOn_bind, copies.runOn_takeEmail free, Service.goOn_ok, Service.runOn_bind,
    runOn_takePassword new]
  show (save (put fields hash u)).runOn o S = _
  rw [hsave, withRow]
  exact congrArg (fun users => (Except.ok (revision fields hash u), { S with users := users })) husers.symm

/-- A password that cannot be hashed ends the update before the save. -/
theorem runOn_change_of_refused (copies : Copies S row u) {e : Credential.CredentialError}
    (free : S.emailTaken fields.email u.id = false)
    (new : NewHash h (o .salt) fields.password (.error e)) :
    (change h fields u).runOn o S = (.error (.credential updateContext e), S) := by
  rw [change, Service.runOn_bind, copies.runOn_takeEmail free, Service.goOn_ok, Service.runOn_bind,
    runOn_takePassword new]
  rfl

/-! ### What is left behind -/

/-- The revision is what is expected. -/
theorem revised_revision (reliable : h.Reliable) (copies : Copies S row u) {hash : Option String}
    (new : NewHash h (o .salt) d.password (.ok hash)) :
    Revised h d u (revision (storedForms d) hash u) := by
  refine ⟨⟨rfl, rfl, rfl⟩, rfl, ?_, rfl, rfl, ?_, ?_, ?_, rfl⟩
  · show (u.emailVerified &&
      ((d.email.map Email.canonical).isNone || u.email == d.email.map Email.canonical))
      = if (d.email.map Email.canonical <|> u.email) = u.email then u.emailVerified else false
    cases d.email.map Email.canonical with
    | none => simp
    | some email =>
      by_cases same : u.email = some email
      · simp [same]
      · simp [same, Ne.symm same]
  · intro hd
    rw [hd] at new
    cases new
    rfl
  · intro password hd
    rw [hd] at new
    cases new with
    | made create => exact ⟨_, rfl, reliable.matching _ _ _ create⟩
  · show (if hash.isSome then none else u.password) = none
    rw [copies.plain_copy, ite_self]

/-- An address that no other live user has is free for the user. -/
theorem Copies.free_of_not_taken (copies : Copies S row u) (free : ¬ TakenByOther S u d) :
    S.emailTaken (storedForms d).email u.id = false := by
  show S.emailTaken (d.email.map Email.canonical) u.id = false
  cases hraw : d.email with
  | none => rfl
  | some raw =>
    by_cases same : u.email = some (Email.canonical raw)
    · have hown := copies.unique.free copies.keyed copies.live
      rwa [← copies.email_eq, same] at hown
    · refine Store.emailTaken_eq_false_iff.2 fun _ v hv hlive hemail => ?_
      by_contra hne
      exact free ⟨raw, hraw, same, v, hv, hlive, hne, hemail⟩

/-- Behind the save, the sessions of the user end if there is a new password. -/
theorem exists_settle (r : Request) (fields : Fields) (active : Option Session) (saved : User) {S : Store}
    (keyed : S.Keyed) :
    ∃ S', (settle r fields active saved).runOn o S = (.ok saved, S') ∧ S'.users = S.users ∧
      (fields.password = none → S' = S) ∧ (fields.password.isSome = true →
        ∃ count, SignsOut saved.id active (o .clock) S S' count) := by
  cases hpassword : fields.password with
  | none =>
    refine ⟨S, ?_, rfl, fun _ => rfl, fun hsome => nomatch hsome⟩
    rw [settle, hpassword]
    rfl
  | some password =>
    have hsome : fields.password.isSome = true := by rw [hpassword]; rfl
    refine ⟨_, runOn_settle r hsome active saved S keyed.nodup_sessions, rfl, ?_, ?_⟩
    · exact fun hnone => nomatch hnone
    · exact fun _ => ⟨_, signsOut_signedOut _ _ _ _⟩

/-! ### The whole update -/

/-- **A fault is what an update is rejected for**, and then it has changed nothing. -/
theorem runOn_update_of_fault (h : Hasher) (r : Request) (o : Surroundings) (active : Option Session)
    (copies : Copies S row u) {draft : Option UserDraft} {rejection : Rejection}
    (fault : Fault S u draft rejection) :
    (update h r (some u) active draft).runOn o S = (.error (.rejected rejection), S) := by
  cases fault with
  | paramsMissing => rfl
  | invalid first =>
    show (Service.checked (check _) >>= _ : Service User).runOn o S = _
    rw [check_eq_error_iff.2 first]
    rfl
  | taken valid taken =>
    obtain ⟨raw, hraw, other, v, hv, hlive, -, hemail⟩ := taken
    have hhas : Store.hasEmail (Email.canonical raw) v = true := Store.hasEmail_iff.2 ⟨hemail, hlive⟩
    have hfound : S.callUsers (.getByEmail (Email.canonical raw))
        = (.ok (some v.refreshPasswordSet), S) := by
      show (Except.ok ((S.users.find? (Store.hasEmail _)).map _), S) = _
      rw [copies.unique.find?_hasEmail hv hhas]
      rfl
    rw [runOn_update h r u active (check_of_no_fault valid), change, Service.runOn_bind,
      runOn_takeEmail_of_found (congrArg (Option.map Email.canonical) hraw) other hfound]
    rfl

/-- **Without a fault an update is done**, unless the password cannot be hashed. -/
theorem runOn_update_of_no_fault (r : Request) (o : Surroundings) (active : Option Session)
    (reliable : h.Reliable) (copies : Copies S row u) (valid : ∀ rejection, ¬ Fault S u (some d) rejection) :
    (∃ saved S', (update h r (some u) active (some d)).runOn o S = (.ok saved, S') ∧
      Applies h (o .clock) S u active d saved S') ∨
    ∃ password e, d.password = some password ∧ Credential.secretLimit < password.utf8ByteSize ∧
      (update h r (some u) active (some d)).runOn o S = (.error (.credential updateContext e), S) := by
  have hvalid : ∀ rejection, ¬ FirstFault d rejection :=
    fun rejection first => valid rejection (.invalid first)
  have hfree := copies.free_of_not_taken fun taken => valid _ (.taken hvalid taken)
  have hchecked := check_of_no_fault hvalid
  obtain ⟨result, new⟩ := exists_newHash h (o .salt) d.password
  cases result with
  | ok hash =>
    left
    have hchange := runOn_change (o := o) copies hfree new
    generalize hsaved : revision (storedForms d) hash u = saved at hchange
    have revised : Revised h d u saved := hsaved ▸ revised_revision reliable copies new
    have hid : saved.id = u.id := revised.same.1
    have hlive : saved.isLive = true := by
      rw [User.isLive, revised.same.2.2]
      exact copies.isLive
    obtain ⟨S', hsettle, husers, hsame, hout⟩ :=
      exists_settle (o := o) r (storedForms d) active saved (withRow_keyed copies.keyed saved)
    have hstored : S'.liveUser? u.id = some saved :=
      ((copies.replaced saved hid hlive).of_users_eq husers).liveUser? (by rw [copies.live]; rfl)
    have hrow : S'.users = S.users.map fun v => if v.id = u.id then saved else v := by
      rw [husers, withRow, hid]
    refine ⟨saved, S', ?_, revised, hstored, hrow, ?_, ?_, ?_⟩
    · rw [runOn_update h r u active hchecked, hchange, Service.goOn_ok, hsettle]
    · intro o'
      have hset : saved.refreshPasswordSet = saved := by rw [← hsaved]; rfl
      rw [runOn_get copies.key, hstored, Option.elim_some, hset]
    · intro hnone
      rw [hsame hnone]
      rfl
    · intro hsome
      obtain ⟨count, hsigns⟩ := hout hsome
      rw [hid] at hsigns
      rw [husers]
      exact ⟨count, hsigns⟩
  | error e =>
    right
    obtain ⟨password, hd, hlong⟩ := new.too_long reliable hchecked
    refine ⟨password, e, hd, hlong, ?_⟩
    rw [runOn_update h r u active hchecked, runOn_change_of_refused copies hfree new]
    rfl

/-- **An update of an up-to-date copy**, for every store that a run has led to, every live user, every
    draft and every active session. -/
theorem update_fresh_exact {T : Trace Store} {c : Crowd Store (Request × Job) (Except ServiceFailure Value)}
    (run : (service h).Run .nobody T c) (reliable : h.Reliable) (copy : FreshCopy c.shared u) (r : Request)
    (o : Surroundings) (active : Option Session) (draft : Option UserDraft) :
    ExactUpdate h (o .clock) c.shared u active draft ((update h r (some u) active draft).runOn o c.shared).1
      ((update h r (some u) active draft).runOn o c.shared).2 := by
  obtain ⟨row, copies⟩ := copy.copies run
  generalize c.shared = S at copies
  by_cases faulty : ∃ rejection, Fault S u draft rejection
  · obtain ⟨rejection, fault⟩ := faulty
    rw [runOn_update_of_fault h r o active copies fault]
    refine ⟨fun r' => ⟨?_, fun fault' => ?_⟩, fun valid => absurd fault (valid rejection), ?_, ?_⟩
    · rintro ⟨⟩
      exact fault
    · -- what it is rejected for is one fault only
      have hsame := runOn_update_of_fault h r o active copies fault'
      rw [runOn_update_of_fault h r o active copies fault] at hsame
      exact congrArg Prod.fst hsame
    · rintro saved ⟨⟩
    · rintro f ⟨⟩
      exact ⟨rfl, .inl ⟨rejection, rfl⟩⟩
  have valid : ∀ rejection, ¬ Fault S u draft rejection := fun rejection fault => faulty ⟨rejection, fault⟩
  cases draft with
  | none => exact absurd .paramsMissing (valid _)
  | some d =>
    rcases runOn_update_of_no_fault r o active reliable copies valid with
      ⟨saved, S', hdone, applies⟩ | ⟨password, e, hpassword, hlong, hfailed⟩
    · rw [hdone]
      refine ⟨fun r' => ⟨?_, fun fault => absurd fault (valid r')⟩, fun _ _ => ⟨saved, rfl⟩, ?_, ?_⟩
      · rintro ⟨⟩
      · rintro saved' ⟨⟩
        exact ⟨d, rfl, applies⟩
      · rintro f ⟨⟩
    · rw [hfailed]
      refine ⟨fun r' => ⟨?_, fun fault => absurd fault (valid r')⟩, fun _ hfits => ?_, ?_, ?_⟩
      · rintro ⟨⟩
      · exact absurd (hfits d password rfl hpassword) (Nat.not_le.2 hlong)
      · rintro saved ⟨⟩
      · rintro f ⟨⟩
        exact ⟨rfl, .inr ⟨d, password, e, rfl, hpassword, hlong, rfl⟩⟩

/-! ### The same password once more -/

/-- The user of `passwordStore`. -/
def passwordAnn : User := { verifiedAnn with passwordHash := some "secret", passwordSet := true }

theorem freshCopy_passwordAnn : FreshCopy passwordStore passwordAnn := by
  refine ⟨.calm .epoch, passwordAnn, ?_, rfl⟩
  have hlive : passwordStore.liveUser? passwordAnn.id = some passwordAnn := by decide +kernel
  rw [runOn_get (by decide), hlive]
  rfl

/-- A draft with another address, a surname, and the password that the user has. -/
def movingDraft : UserDraft := ⟨some " New@Example.com ", some "secret", none, some "Smith"⟩

theorem check_movingDraft : check movingDraft = .ok (storedForms movingDraft) := by
  have hemail : Field.email " New@Example.com " = .ok (Email.canonical " New@Example.com ") :=
    email_eq_ok_iff.2 ⟨rfl, by decide +kernel, by decide +kernel⟩
  have hpassword : Field.password "secret" = .ok "secret" := password_eq_ok_iff.2 ⟨rfl, by decide, by decide⟩
  have hsurname : Field.surname "Smith" = .ok (PersonName.canonical "Smith") :=
    name_eq_ok_iff.2 ⟨rfl, by decide +kernel, by decide +kernel⟩
  show (do
    let email ← (Field.email " New@Example.com ").map some
    let password ← (Field.password "secret").map some
    let surname ← (Field.surname "Smith").map some
    _) = _
  rw [hemail, hpassword, hsurname]
  rfl

/-- Nothing is wrong with it. -/
theorem no_fault_movingDraft (rejection : Rejection) :
    ¬ Fault passwordStore passwordAnn (some movingDraft) rejection := by
  have hvalid (r : Rejection) (first : FirstFault movingDraft r) : False := by
    rw [← check_eq_error_iff, check_movingDraft] at first
    cases first
  have halone : ∀ v ∈ passwordStore.users, v.id = 1 := by decide +kernel
  rintro (- | first | ⟨-, _, -, -, v, hv, -, hne, -⟩)
  · exact hvalid _ first
  · exact hne (halone v hv)

theorem update_fresh_exact_moving : ∃ T c saved S', (service plainHasher).Run .nobody T c ∧
    plainHasher.Reliable ∧ FreshCopy c.shared passwordAnn ∧
    (update plainHasher (.new "r" .epoch) (some passwordAnn) none (some movingDraft)).runOn (.calm .epoch)
      c.shared = (.ok saved, S') ∧
    saved.email = some "new@example.com" ∧ saved.emailVerified = false ∧ saved.surname = some "SMITH" ∧
    S'.liveUser? 1 = some saved ∧
      ∃ count, SignsOut 1 none .epoch { c.shared with users := S'.users } S' count := by
  obtain ⟨T, v₁, v₂, run⟩ := run_passwordStore
  have exact := update_fresh_exact run.toRun plainHasher_reliable freshCopy_passwordAnn (.new "r" .epoch)
    (.calm .epoch) none (some movingDraft)
  obtain ⟨saved, hsaved⟩ := exact.succeeds no_fault_movingDraft (by
    rintro d password ⟨⟩ ⟨⟩
    decide)
  obtain ⟨d, ⟨⟩, applies⟩ := exact.applies saved hsaved
  have hemail : saved.email = some "new@example.com" := applies.revised.email.trans (by decide +kernel)
  have hverified := applies.revised.emailVerified
  rw [hemail, if_neg (by decide)] at hverified
  exact ⟨T, _, saved, _, run.toRun, plainHasher_reliable, freshCopy_passwordAnn, Prod.ext hsaved rfl, hemail,
    hverified, applies.revised.surname.trans (by decide +kernel), applies.stored, applies.signedOut rfl⟩

end Accounts

end Turnstile
