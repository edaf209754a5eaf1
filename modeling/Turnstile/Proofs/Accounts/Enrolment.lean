import Turnstile.Proofs.Accounts.SignUp
import Turnstile.Proofs.Accounts.Update
import Turnstile.Proofs.Service.Lookups
import Turnstile.Proofs.Sessions.Lifetime
import Turnstile.Proofs.Store.Emails

namespace Turnstile.Accounts

open Credential (Hasher)

/-!
# Exactly when a user is signed up

What a sign-up does by itself in a store, whatever rows there are, deleted ones among them.

* `SignUp.Fault` lists what a sign-up is rejected for, the first fault in the order of the fields and then an
  address that a live user has.
* `SignUp.Enrols` says what becomes of the store: one more row, which both lookups give back.
* `newcomer` is the record that is inserted, and `runOn_enter_of_free` the sign-up of a checked draft.
  `exists_newcomer_of_create`: whoever has been signed up is such a newcomer.
* `signUp_exact` is the whole: a sign-up is rejected exactly if there is a fault, and otherwise the user
  is in.
-/

namespace SignUp

/-! ### What is expected -/

/-- A draft asks for an address that a live user has. -/
def Taken (S : Store) (d : UserDraft) : Prop :=
  ∃ raw, d.email = some raw ∧ ∃ v ∈ S.users, v.isLive = true ∧ v.email = some (Email.canonical raw)

/-- What a sign-up is rejected for. -/
inductive Fault (S : Store) : Option UserDraft → Rejection → Prop where
  | paramsMissing : Fault S none .userCreateParamsMissing
  | invalid {d : UserDraft} {r : Rejection} (first : FirstFault d r) : Fault S (some d) r
  | taken {d : UserDraft} (valid : ∀ r, ¬ FirstFault d r) (taken : Taken S d) :
      Fault S (some d) .userEmailExists

/-- What a sign-up that succeeds leaves behind: one more row, with a key that no other row has, which is
    unverified, not deleted, and carries the supplied fields in their stored forms. There is a hash
    exactly if a password was supplied, and the password matches it. The user is given back by key and by
    address. -/
structure Enrols (h : Hasher) (S : Store) (d : UserDraft) (u : User) (S' : Store) : Prop where
  stored : S' = { S.tick with users := S.users ++ [u], lastUser := S.lastUser + 1 }
  fresh : u.id = S.lastUser + 1 ∧ ∀ v ∈ S.users, v.id ≠ u.id
  new : u.createdAt = S.stamp ∧ u.deletedAt = none ∧ u.emailVerified = false
  email : u.email = d.email.map Email.canonical
  givenNames : u.givenNames = d.givenNames.map PersonName.canonical
  surname : u.surname = d.surname.map PersonName.canonical
  hashed : u.passwordHash.isSome = d.password.isSome ∧ ∀ password, d.password = some password →
    ∃ hash, u.passwordHash = some hash ∧ h.compare hash password = true
  plain : u.password = none ∧ u.passwordSet = u.passwordHash.isSome
  got : ∀ o, (get u.id).runOn o S' = (.ok u, S')
  found : ∀ email, u.email = some email → S'.callUsers (.getByEmail email) = (.ok (some u), S')

/-- What the answer of a sign-up and the store behind it say about the draft and the store before. -/
structure Exact (h : Hasher) (S : Store) (draft : Option UserDraft) (answer : Except ServiceFailure User)
    (S' : Store) : Prop where
  /-- It is rejected exactly if there is a fault. -/
  rejected : ∀ r, answer = .error (.rejected r) ↔ Fault S draft r
  /-- Otherwise it succeeds, as long as no password is longer than can be hashed, -/
  succeeds : (∀ d password, draft = some d → d.password = some password →
    password.utf8ByteSize ≤ Credential.secretLimit) → ((∃ u, answer = .ok u) ↔ ∀ r, ¬ Fault S draft r)
  /-- and then the user is in. -/
  enrols : ∀ u, answer = .ok u → ∃ d, draft = some d ∧ Enrols h S d u S'
  /-- If it fails, it has changed nothing; and if it is not rejected, the password could not be hashed. -/
  kept : ∀ f, answer = .error f → S' = S ∧ ((∃ r, f = .rejected r) ∨
    ∃ d password e, draft = some d ∧ d.password = some password ∧
      Credential.secretLimit < password.utf8ByteSize ∧ f = .credential createContext e)

end SignUp

open SignUp (Taken Enrols)

variable {h : Hasher} {r : Request} {o : Surroundings} {S : Store} {d : UserDraft} {fields : Fields}
  {email : String}

/-! ### The parts of a sign-up -/

/-- Nobody has the address that is asked for, if one is. -/
def Free (S : Store) (email : Option String) : Prop := ∀ e, email = some e → S.emailHolder? e = none

/-- An address that is not taken is free. -/
theorem free_of_not_taken (free : ¬ Taken S d) : Free S (storedForms d).email := by
  intro e he
  obtain ⟨raw, hraw, rfl⟩ := Option.map_eq_some_iff.1 he
  rw [← Option.not_isSome_iff_eq_none, Store.emailHolder?_isSome]
  exact fun held => free ⟨raw, hraw, held⟩

/-- A free address may be inserted. -/
theorem Free.not_taken {email : Option String} (free : Free S email) : S.emailTaken email 0 = false := by
  refine Store.emailTaken_eq_false_iff.2 fun hsome u hu hlive hemail => ?_
  obtain ⟨e, rfl⟩ := Option.isSome_iff_exists.1 hsome
  have holder := Store.emailHolder?_isSome.2 ⟨u, hu, hlive, hemail⟩
  rw [free e rfl] at holder
  cases holder

/-- A free address may be taken. -/
theorem runOn_takeNewEmail_of_free (free : Free S fields.email) :
    (takeNewEmail fields).runOn o S = (.ok (), S) := by
  unfold takeNewEmail
  cases hemail : fields.email with
  | none => rfl
  | some email =>
    show (requireFree createContext email).runOn o S = _
    obtain ⟨found, hcall, hfound⟩ := S.getByEmail_answer email
    have hnone : found = none := Option.map_eq_none_iff.1 (hfound.trans (free email hemail))
    rw [requireFree, Service.runOn_bind, Service.runOn_users, hcall, hnone]
    rfl

/-- An address that somebody has may not. -/
theorem runOn_takeNewEmail_of_held (hemail : fields.email = some email)
    (held : (S.emailHolder? email).isSome = true) :
    (takeNewEmail fields).runOn o S = (.error (.rejected .userEmailExists), S) := by
  unfold takeNewEmail
  rw [hemail]
  show (requireFree createContext email).runOn o S = _
  obtain ⟨found, hcall, hfound⟩ := S.getByEmail_answer email
  rw [← hfound, Option.isSome_map] at held
  obtain ⟨u, rfl⟩ := Option.isSome_iff_exists.1 held
  rw [requireFree, Service.runOn_bind, Service.runOn_users, hcall]
  rfl

/-- Telling operators of a new user does not fail. -/
theorem runOn_announce (r : Request) (u : User) : (announce r u).runOn o S = (.ok (), S) := by
  rw [announce, Service.runOn_bind, Service.runOn_perform, Service.goOn_ok]
  split <;> rfl

/-! ### A checked draft -/

/-- The record of a new user with the fields of a checked draft and a hash of its password. -/
def newcomer (fields : Fields) (hash : Option String) : User :=
  { User.new with
    email := fields.email
    passwordHash := hash
    passwordSet := hash.isSome
    givenNames := fields.givenNames
    surname := fields.surname }

/-- The store with one more user. -/
def withUser (S : Store) (u : User) : Store :=
  { S.tick with users := S.users ++ [u], lastUser := S.lastUser + 1 }

/-- One more user with a free address leaves addresses apart. -/
theorem uniqueEmails_withUser (unique : S.UniqueEmails) {u : User} (free : Free S u.email) :
    (withUser S u).UniqueEmails := by
  show (S.users ++ [u]).Pairwise Store.Apart
  refine List.pairwise_append.2 ⟨unique, List.pairwise_singleton _ _, fun v hv w hw live _ hsome heq => ?_⟩
  obtain rfl := List.mem_singleton.1 hw
  -- the address of the old row would not be free
  obtain ⟨email, hemail⟩ := Option.isSome_iff_exists.1 hsome
  have held := Store.emailHolder?_isSome.2 ⟨v, hv, live, hemail⟩
  rw [free email (heq.symm.trans hemail)] at held
  cases held

/-- **The sign-up of a checked draft** with a free address inserts the newcomer. -/
theorem runOn_enter_of_free (r : Request) (free : Free S fields.email) {hash : Option String}
    (new : NewHash h (o .salt) fields.password (.ok hash)) :
    (enter h r fields).runOn o S =
      (.ok (S.newUser (newcomer fields hash)), withUser S (S.newUser (newcomer fields hash))) := by
  have hfree : ¬ S.emailTaken (newcomer fields hash).email 0 = true := by
    rw [Bool.not_eq_true]
    exact free.not_taken
  have hinsert : S.callUsers (.create (newcomer fields hash)) =
      (.ok (S.newUser (newcomer fields hash)), withUser S (S.newUser (newcomer fields hash))) := by
    rw [Store.callUsers, Store.createUser_eq, if_neg hfree]
    rfl
  have hhashed : (takePassword h createContext fields { User.new with email := fields.email }).runOn o S =
      (.ok { User.new with email := fields.email, passwordHash := hash, passwordSet := hash.isSome },
        S) := by
    rw [runOn_takePassword new]
    cases hash <;> rfl
  rw [enter, Service.runOn_bind, runOn_takeNewEmail_of_free free, Service.goOn_ok, Service.runOn_bind,
    hhashed]
  show (Service.users createContext (.create (newcomer fields hash)) >>= _ : Service User).runOn o S = _
  rw [Service.runOn_bind, Service.runOn_users, hinsert]
  -- what follows only tells of the new user
  show (announce r _ >>= _ : Service User).runOn o _ = _
  rw [Service.runOn_bind, runOn_announce]
  rfl

/-- A password that cannot be hashed ends the sign-up before anybody is inserted. -/
theorem runOn_enter_of_refused (r : Request) (free : Free S fields.email) {e : Credential.CredentialError}
    (new : NewHash h (o .salt) fields.password (.error e)) :
    (enter h r fields).runOn o S = (.error (.credential createContext e), S) := by
  rw [enter, Service.runOn_bind, runOn_takeNewEmail_of_free free, Service.goOn_ok, Service.runOn_bind,
    runOn_takePassword new]
  rfl

/-! ### What is left behind -/

/-- **The newcomer is what is expected.** -/
theorem enrols_newcomer (reliable : h.Reliable) (handed : ∀ v ∈ S.users, v.id ≤ S.lastUser)
    (free : Free S (storedForms d).email) {hash : Option String}
    (new : NewHash h (o .salt) d.password (.ok hash)) :
    Enrols h S d (S.newUser (newcomer (storedForms d) hash))
      (withUser S (S.newUser (newcomer (storedForms d) hash))) := by
  generalize hu : S.newUser (newcomer (storedForms d) hash) = u
  have hid : u.id = S.lastUser + 1 := by rw [← hu]; rfl
  have hemail : u.email = (storedForms d).email := by rw [← hu]; rfl
  have hlive : u.isLive = true := by rw [← hu]; rfl
  have hset : u.refreshPasswordSet = u := by rw [← hu]; rfl
  have hfresh : ∀ v ∈ S.users, v.id ≠ u.id := by
    intro v hv
    rw [hid]
    exact Int.ne_of_lt (Int.lt_add_one_of_le (handed v hv))
  refine ⟨rfl, ⟨hid, hfresh⟩, ?_, hemail, ?_, ?_, ?_, ?_, ?_, ?_⟩
  · rw [← hu]
    exact ⟨rfl, rfl, rfl⟩
  · rw [← hu]
    rfl
  · rw [← hu]
    rfl
  · -- the hash is the one that was made of the password
    have hhash : u.passwordHash = hash := by rw [← hu]; rfl
    rw [hhash]
    generalize d.password = password at new
    cases new with
    | absent => exact ⟨rfl, fun _ hnone => nomatch hnone⟩
    | made create =>
      refine ⟨rfl, ?_⟩
      rintro _ ⟨⟩
      exact ⟨_, rfl, reliable.matching _ _ _ create⟩
  · rw [← hu]
    exact ⟨rfl, rfl⟩
  · -- no row in front of the new one has its key
    intro o'
    have hnone : S.users.find? (Store.isLiveUser u.id) = none := by
      rw [List.find?_eq_none]
      exact fun v hv hlive => hfresh v hv (Store.isLiveUser_iff.1 hlive).1
    have hfound : (withUser S u).liveUser? u.id = some u := by
      show (S.users ++ [u]).find? _ = _
      rw [List.find?_append, hnone, Option.none_or,
        List.find?_cons_of_pos (Store.isLiveUser_iff.2 ⟨rfl, hlive⟩)]
    have key : u.id ≠ 0 := by
      rw [hid]
      exact Int.ne_of_gt (Int.lt_add_one_of_le (Int.natCast_nonneg _))
    rw [runOn_get key, hfound, Option.elim_some, hset]
  · -- nor does any that is live have its address
    intro email he
    have hnone : S.users.find? (Store.hasEmail email) = none :=
      Option.map_eq_none_iff.1 (free email (hemail.symm.trans he))
    show (Except.ok (((S.users ++ [u]).find? (Store.hasEmail email)).map User.refreshPasswordSet), _) = _
    rw [List.find?_append, hnone, Option.none_or,
      List.find?_cons_of_pos (Store.hasEmail_iff.2 ⟨he, hlive⟩), Option.map_some, hset]

/-! ### The whole sign-up -/

/-- **A fault is what a sign-up is rejected for**, and then it has changed nothing. -/
theorem runOn_create_of_fault (h : Hasher) (r : Request) (o : Surroundings) {draft : Option UserDraft}
    {rejection : Rejection} (fault : SignUp.Fault S draft rejection) :
    (create h r draft).runOn o S = (.error (.rejected rejection), S) := by
  cases fault with
  | paramsMissing => rfl
  | invalid first =>
    show (Service.checked (check _) >>= _ : Service User).runOn o S = _
    rw [check_eq_error_iff.2 first]
    rfl
  | taken valid taken =>
    obtain ⟨raw, hraw, held⟩ := taken
    rw [create_of_check (check_of_no_fault valid), enter, Service.runOn_bind,
      runOn_takeNewEmail_of_held (congrArg (Option.map Email.canonical) hraw)
        (Store.emailHolder?_isSome.2 held)]
    rfl

/-- **Without a fault the user is in**, unless the password cannot be hashed. -/
theorem runOn_create_of_no_fault (r : Request) (o : Surroundings) (reliable : h.Reliable)
    (handed : ∀ v ∈ S.users, v.id ≤ S.lastUser) (valid : ∀ rejection, ¬ SignUp.Fault S (some d) rejection) :
    (∃ u S', (create h r (some d)).runOn o S = (.ok u, S') ∧ Enrols h S d u S') ∨
    ∃ password e, d.password = some password ∧ Credential.secretLimit < password.utf8ByteSize ∧
      (create h r (some d)).runOn o S = (.error (.credential createContext e), S) := by
  have hvalid : ∀ rejection, ¬ FirstFault d rejection :=
    fun rejection first => valid rejection (.invalid first)
  have free := free_of_not_taken fun taken => valid _ (.taken hvalid taken)
  have hchecked := check_of_no_fault hvalid
  rw [create_of_check hchecked]
  obtain ⟨result, new⟩ := exists_newHash h (o .salt) d.password
  cases result with
  | ok hash => exact .inl ⟨_, _, runOn_enter_of_free r free new, enrols_newcomer reliable handed free new⟩
  | error e =>
    obtain ⟨password, hd, hlong⟩ := new.too_long reliable hchecked
    exact .inr ⟨password, e, hd, hlong, runOn_enter_of_refused r free new⟩

/-- **Whoever has been signed up** had a draft without a fault, and is the newcomer that has been added. -/
theorem exists_newcomer_of_create {u : User} {S' : Store}
    (done : (create h r (some d)).runOn o S = (.ok u, S')) :
    ∃ hash, check d = .ok (storedForms d) ∧ Free S (storedForms d).email ∧
      u = S.newUser (newcomer (storedForms d) hash) ∧ S' = withUser S u := by
  have faultless (rejection : Rejection) (fault : SignUp.Fault S (some d) rejection) : False := by
    rw [runOn_create_of_fault h r o fault] at done
    cases done
  have hchecked : check d = .ok (storedForms d) :=
    check_of_no_fault fun _ first => faultless _ (.invalid first)
  have free : Free S (storedForms d).email :=
    free_of_not_taken fun taken => faultless _ (.taken (fun _ first => faultless _ (.invalid first)) taken)
  rw [create_of_check hchecked] at done
  obtain ⟨result, new⟩ := exists_newHash h (o .salt) d.password
  cases result with
  | ok hash =>
    rw [runOn_enter_of_free r free new] at done
    cases done
    exact ⟨hash, hchecked, free, rfl, rfl⟩
  | error e =>
    rw [runOn_enter_of_refused r free new] at done
    cases done

/-- **A sign-up by itself**, for every store in which the keys of users have been handed out, whether its
    rows are live or deleted, and every draft. -/
theorem signUp_exact (reliable : h.Reliable) (handed : ∀ v ∈ S.users, v.id ≤ S.lastUser) (r : Request)
    (o : Surroundings) (draft : Option UserDraft) :
    SignUp.Exact h S draft ((create h r draft).runOn o S).1 ((create h r draft).runOn o S).2 := by
  by_cases faulty : ∃ rejection, SignUp.Fault S draft rejection
  · obtain ⟨rejection, fault⟩ := faulty
    rw [runOn_create_of_fault h r o fault]
    refine ⟨fun r' => ⟨?_, fun fault' => ?_⟩, fun _ => ⟨?_, fun valid => ?_⟩, ?_, ?_⟩
    · rintro ⟨⟩
      exact fault
    · -- what it is rejected for is one fault only
      have hsame := runOn_create_of_fault h r o fault'
      rw [runOn_create_of_fault h r o fault] at hsame
      exact congrArg Prod.fst hsame
    · rintro ⟨u, ⟨⟩⟩
    · exact absurd fault (valid rejection)
    · rintro u ⟨⟩
    · rintro f ⟨⟩
      exact ⟨rfl, .inl ⟨rejection, rfl⟩⟩
  have valid : ∀ rejection, ¬ SignUp.Fault S draft rejection :=
    fun rejection fault => faulty ⟨rejection, fault⟩
  cases draft with
  | none => exact absurd .paramsMissing (valid _)
  | some d =>
    rcases runOn_create_of_no_fault r o reliable handed valid with
      ⟨u, S', hdone, enrols⟩ | ⟨password, e, hpassword, hlong, hfailed⟩
    · rw [hdone]
      refine ⟨fun r' => ⟨?_, fun fault => absurd fault (valid r')⟩, fun _ => ⟨fun _ => valid, ?_⟩, ?_, ?_⟩
      · rintro ⟨⟩
      · exact fun _ => ⟨u, rfl⟩
      · rintro u' ⟨⟩
        exact ⟨d, rfl, enrols⟩
      · rintro f ⟨⟩
    · rw [hfailed]
      refine ⟨fun r' => ⟨?_, fun fault => absurd fault (valid r')⟩, fun hfits => ?_, ?_, ?_⟩
      · rintro ⟨⟩
      · exact absurd (hfits d password rfl hpassword) (Nat.not_le.2 hlong)
      · rintro u ⟨⟩
      · rintro f ⟨⟩
        exact ⟨rfl, .inr ⟨d, password, e, rfl, hpassword, hlong, rfl⟩⟩

/-! ### The address of a deleted user -/

/-- A store in which a deleted user had an address. -/
def freedStore : Store :=
  ⟨[{ User.new with id := 1, deletedAt := some .epoch, email := some "ann@example.com" }], [], 1, 0, 2⟩

/-- A draft with this address, as it was typed, and a password. -/
def securedDraft : UserDraft := { addressDraft with password := some "secret" }

/-- Nothing is wrong with it. -/
theorem no_fault_securedDraft (rejection : Rejection) :
    ¬ SignUp.Fault freedStore (some securedDraft) rejection := by
  have hpassword : Field.password "secret" = .ok "secret" := password_eq_ok_iff.2 ⟨rfl, by decide, by decide⟩
  have hvalid (r : Rejection) (first : FirstFault securedDraft r) : False := by
    cases first with
    | email fault =>
      have haddress := check_eq_error_iff.2 (FirstFault.email (d := addressDraft) fault)
      rw [check_addressDraft] at haddress
      cases haddress
    | password email fault =>
      obtain ⟨_, ⟨⟩, hfault⟩ := fault
      rw [hpassword] at hfault
      cases hfault
    | givenNames email password fault =>
      obtain ⟨_, ⟨⟩, -⟩ := fault
    | surname email password givenNames fault =>
      obtain ⟨_, ⟨⟩, -⟩ := fault
  have hdead : ∀ v ∈ freedStore.users, v.isLive = false := by decide
  rintro (- | first | ⟨-, _, -, v, hv, hlive, -⟩)
  · exact hvalid _ first
  · rw [hdead v hv] at hlive
    cases hlive

/-- The address is free for somebody else, who gets the next key. -/
theorem signUp_exact_freedAddress :
    plainHasher.Reliable ∧ (∀ v ∈ freedStore.users, v.id ≤ freedStore.lastUser) ∧
    ∃ u S', (create plainHasher (.new "r" .epoch) (some securedDraft)).runOn (.calm .epoch) freedStore
        = (.ok u, S') ∧ u.id = 2 ∧ u.email = some "ann@example.com" ∧
      (∃ hash, u.passwordHash = some hash ∧ plainHasher.compare hash "secret" = true) ∧
      (get 2).runOn (.calm .epoch) S' = (.ok u, S') := by
  have handed : ∀ v ∈ freedStore.users, v.id ≤ freedStore.lastUser := by decide
  have exact := signUp_exact plainHasher_reliable handed (.new "r" .epoch) (.calm .epoch) (some securedDraft)
  obtain ⟨u, hu⟩ := (exact.succeeds (by
    rintro d password ⟨⟩ ⟨⟩
    decide)).2 no_fault_securedDraft
  obtain ⟨d, ⟨⟩, enrols⟩ := exact.enrols u hu
  have hid : u.id = 2 := enrols.fresh.1.trans (by decide)
  have hget := enrols.got (.calm .epoch)
  rw [hid] at hget
  exact ⟨plainHasher_reliable, handed, u, _, Prod.ext hu rfl, hid, enrols.email.trans (by decide +kernel),
    enrols.hashed.2 "secret" rfl, hget⟩

end Turnstile.Accounts
