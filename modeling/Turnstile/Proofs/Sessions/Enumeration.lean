import Turnstile.Proofs.Accounts.StaleCopy

namespace Turnstile

open Credential (Hasher)
open Accounts (ann)

/-!
# What a sign-in tells about accounts

Who tries to sign in without knowing the password should not learn from the answer whether there is an
account with the address.

* `TurnsAway`: a sign-in by itself comes back with a rejection, and the store is as it was.
* `wrong_like_unknown` compares a store with the same store without one account, for any spelling of the
  account's address: a wrong password is answered as if there were no such account. A request without any
  password is answered in two ways, so that who forgot to type it is told so; `not_hidesAccounts` draws the
  consequence.
-/

/-- The store as it would be without a user. -/
def Store.without (S : Store) (a : User) : Store := { S with users := S.users.filter (· ≠ a) }

namespace Sessions

/-- A sign-in that nobody disturbs comes back with a rejection and has left the store alone. -/
def TurnsAway (h : Hasher) (r : Request) (o : Surroundings) (s : SignIn) (S : Store)
    (rejection : Rejection) : Prop :=
  (create h r (some s)).runOn o S = (.error (.rejected rejection), S)

/-- A live user with an address and a password. -/
structure Account (S : Store) (a : User) (hash : String) : Prop where
  mem : a ∈ S.users
  live : a.isLive = true
  addressed : a.email ≠ some ""
  secured : a.passwordHash = some hash

/-- The request is for an ordinary session of the user, whose address is spelled in some way. -/
structure AsksFor (s : SignIn) (a : User) : Prop where
  purpose : issuable s.purpose = .ok .sessionCreate
  clientIp : s.clientIp ≠ ""
  spelled : ∃ raw, s.email = some raw ∧ a.email = some (Email.canonical raw)

variable {h : Hasher} {r : Request} {o : Surroundings} {s : SignIn} {S : Store} {a : User}
  {hash email : String} {purpose : Purpose}

/-! ### Looking the user up -/

/-- The address that is looked up is the user's. -/
theorem AsksFor.key (asks : AsksFor s a) (addressed : a.email ≠ some "") :
    ∃ email, addressKey s = some email ∧ a.email = some email := by
  obtain ⟨raw, hraw, hemail⟩ := asks.spelled
  refine ⟨Email.canonical raw, ?_, hemail⟩
  have hne : Email.canonical raw ≠ "" := fun heq => addressed (heq ▸ hemail)
  simp [addressKey, hraw, hne]

/-- What is left of a sign-in once its user is found. -/
def openFor (h : Hasher) (r : Request) (s : SignIn) (purpose : Purpose) (u : User) : Service Session := do
  Service.checked (checkPassword h s purpose u)
  let session ← prepare h (Session.new u.id s.clientIp purpose)
  let session ← Service.sessions createContext (.create session)
  Service.log r .info "User session created"
    [Accounts.userField u.id, sessionField session.id, ("purpose", .str purpose.name)]
  return session

/-- A sign-in from somewhere reads the purpose first. -/
theorem create_of_clientIp (hip : s.clientIp ≠ "") :
    create h r (some s) = (do
      let purpose ← Service.checked (issuable s.purpose)
      let found ← findUser s
      let u ← Service.orReject .userSessionCredentialsInvalid found
      openFor h r s purpose u) := by
  unfold create
  show (if s.clientIp = "" then _ else _ : Service Session) = _
  rw [if_neg hip]
  rfl

/-- For a purpose that may be issued it looks a user up, and goes on with who is found. -/
theorem create_of_issuable (hip : s.clientIp ≠ "") (hpurpose : issuable s.purpose = .ok purpose) :
    create h r (some s) = (do
      let found ← findUser s
      let u ← Service.orReject .userSessionCredentialsInvalid found
      openFor h r s purpose u) := by
  rw [create_of_clientIp hip, hpurpose]
  rfl

/-- By itself, it is decided by who is found. -/
theorem runOn_create (hip : s.clientIp ≠ "") (hpurpose : issuable s.purpose = .ok purpose)
    (key : addressKey s = some email) :
    (create h r (some s)).runOn o S = Service.goOn o (openFor h r s purpose)
      (((S.users.find? (Store.hasEmail email)).map User.refreshPasswordSet).elim
        (.error (.rejected .userSessionCredentialsInvalid)) .ok, S) := by
  rw [create_of_issuable hip hpurpose, findUser, key, Service.runOn_bind, Service.runOn_users]
  show (Service.orReject _ _ >>= _ : Service Session).runOn o S = _
  rw [Service.runOn_bind, Service.runOn_orReject]
  rfl

/-- An address that nobody has is turned away. -/
theorem turnsAway_of_unknown (hip : s.clientIp ≠ "") (hpurpose : issuable s.purpose = .ok purpose)
    (key : addressKey s = some email) (unknown : S.users.find? (Store.hasEmail email) = none) :
    TurnsAway h r o s S .userSessionCredentialsInvalid := by
  rw [TurnsAway, runOn_create hip hpurpose key, unknown]
  rfl

/-- A user who is found is turned away as the check of the password says. -/
theorem turnsAway_of_refused {rejection : Rejection} (hip : s.clientIp ≠ "")
    (hpurpose : issuable s.purpose = .ok purpose) (key : addressKey s = some email)
    (found : S.users.find? (Store.hasEmail email) = some a)
    (refused : checkPassword h s purpose a.refreshPasswordSet = .error rejection) :
    TurnsAway h r o s S rejection := by
  rw [TurnsAway, runOn_create hip hpurpose key, found]
  show (Service.checked (checkPassword h s purpose a.refreshPasswordSet) >>= _ :
    Service Session).runOn o S = _
  rw [refused]
  rfl

/-! ### With the account and without -/

namespace Account

variable (account : Account S a hash) (asks : AsksFor s a) (unique : S.UniqueEmails)

include account asks unique

/-- The account is found under its address, and nobody is once it is removed. -/
theorem finds : ∃ email, addressKey s = some email ∧ S.users.find? (Store.hasEmail email) = some a ∧
    (S.without a).users.find? (Store.hasEmail email) = none := by
  obtain ⟨email, key, hemail⟩ := asks.key account.addressed
  have hhas : Store.hasEmail email a = true := Store.hasEmail_iff.2 ⟨hemail, account.live⟩
  refine ⟨email, key, unique.find?_hasEmail account.mem hhas, ?_⟩
  rw [List.find?_eq_none]
  intro u hu huEmail
  obtain ⟨hmem, hne⟩ := List.mem_filter.1 hu
  exact of_decide_eq_true hne (unique.eq_of_hasEmail hmem account.mem huEmail hhas)

/-- Without the account, its address is not known. -/
theorem turnsAway_without : TurnsAway h r o s (S.without a) .userSessionCredentialsInvalid := by
  obtain ⟨email, key, -, unknown⟩ := account.finds asks unique
  exact turnsAway_of_unknown asks.clientIp asks.purpose key unknown

/-- A wrong password is turned away. -/
theorem turnsAway_of_wrong {password : String} (presented : s.password = some password)
    (wrong : h.compare hash password = false) :
    TurnsAway h r o s S .userSessionCredentialsInvalid := by
  obtain ⟨email, key, found, -⟩ := account.finds asks unique
  refine turnsAway_of_refused asks.clientIp asks.purpose key found ?_
  simp [checkPassword, User.refreshPasswordSet, User.hasPassword, account.secured, presented, wrong]

/-- So is a request without a password, but with another word. -/
theorem turnsAway_of_absent (absent : s.password = none) :
    TurnsAway h r o s S .userSessionPasswordMissing := by
  obtain ⟨email, key, found, -⟩ := account.finds asks unique
  refine turnsAway_of_refused asks.clientIp asks.purpose key found ?_
  simp [checkPassword, User.refreshPasswordSet, account.secured, absent]

end Account

/-- **A wrong password is answered as if there were no such account**, in whatever spelling the address is
    given. Without any password, the answer tells an account with a password from none. Either way the store
    is left alone. -/
theorem wrong_like_unknown (unique : S.UniqueEmails) (account : Account S a hash) (asks : AsksFor s a) :
    (∀ password, s.password = some password → h.compare hash password = false →
        TurnsAway h r o s S .userSessionCredentialsInvalid ∧
          TurnsAway h r o s (S.without a) .userSessionCredentialsInvalid) ∧
      (s.password = none → TurnsAway h r o s S .userSessionPasswordMissing ∧
        TurnsAway h r o s (S.without a) .userSessionCredentialsInvalid) := by
  have hwithout : TurnsAway h r o s (S.without a) .userSessionCredentialsInvalid :=
    account.turnsAway_without asks unique
  constructor
  · intro password presented wrong
    exact ⟨account.turnsAway_of_wrong asks unique presented wrong, hwithout⟩
  · intro absent
    exact ⟨account.turnsAway_of_absent asks unique absent, hwithout⟩

/-! ### One account -/

/-- A user with a password. -/
def securedAnn : User := { ann with passwordHash := some "secret", passwordSet := true }

/-- The store that knows only this user. -/
def securedStore : Store := ⟨[securedAnn], [], 1, 0, 1⟩

theorem securedStore_uniqueEmails : securedStore.UniqueEmails := List.pairwise_singleton _ _

theorem account_securedAnn : Account securedStore securedAnn "secret" :=
  ⟨List.mem_singleton.2 rfl, rfl, by decide, rfl⟩

/-- A request with the user's address, however it goes about the password. -/
theorem asksFor_securedAnn (password : Option String) :
    AsksFor { addressSignIn with password := password } securedAnn where
  purpose := show issuable "SESSION_CREATE" = .ok .sessionCreate by decide +kernel
  clientIp := show "::1" ≠ "" by decide
  spelled := ⟨"ann@example.com", rfl, by decide +kernel⟩

theorem wrong_like_unknown_guess :
    TurnsAway plainHasher (.new "r" .epoch) (.calm .epoch) { addressSignIn with password := some "guess" }
        securedStore .userSessionCredentialsInvalid ∧
      TurnsAway plainHasher (.new "r" .epoch) (.calm .epoch) { addressSignIn with password := some "guess" }
        (securedStore.without securedAnn) .userSessionCredentialsInvalid :=
  (wrong_like_unknown securedStore_uniqueEmails account_securedAnn (asksFor_securedAnn (some "guess"))).1
    "guess" rfl (by decide)

/-- A sign-in hides which accounts there are: unless the password is right, the answer is the same as if
    there were no such account, and the store is left alone. -/
def HidesAccounts (h : Hasher) : Prop :=
  ∀ (r : Request) (o : Surroundings) (S : Store) (a : User) (hash : String) (s : SignIn),
    S.UniqueEmails → Account S a hash → AsksFor s a →
    (∀ password, s.password = some password → h.compare hash password = false) →
    ((create h r (some s)).runOn o S).1 = ((create h r (some s)).runOn o (S.without a)).1 ∧
      ((create h r (some s)).runOn o S).2 = S ∧
      ((create h r (some s)).runOn o (S.without a)).2 = S.without a

/-- **An account with a password can be told from none**: by a request without a password. -/
theorem not_hidesAccounts : ¬ HidesAccounts plainHasher := by
  intro claim
  have asks : AsksFor addressSignIn securedAnn := asksFor_securedAnn none
  obtain ⟨hsame, -, -⟩ := claim (.new "r" .epoch) (.calm .epoch) securedStore securedAnn "secret"
    addressSignIn securedStore_uniqueEmails account_securedAnn asks fun _ h => nomatch h
  have hwith := account_securedAnn.turnsAway_of_absent (h := plainHasher) (r := .new "r" .epoch)
    (o := .calm .epoch) asks securedStore_uniqueEmails rfl
  have hwithout := account_securedAnn.turnsAway_without (h := plainHasher) (r := .new "r" .epoch)
    (o := .calm .epoch) asks securedStore_uniqueEmails
  rw [hwith, hwithout] at hsame
  cases hsame

end Sessions

end Turnstile
