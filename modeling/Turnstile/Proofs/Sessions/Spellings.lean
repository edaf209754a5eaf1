import Turnstile.Proofs.Accounts.Enrolment
import Turnstile.Proofs.Service.WellFormed
import Turnstile.Proofs.Sessions.Issuance
import Turnstile.Proofs.Text.Recase

namespace Turnstile

open Credential (Hasher)

/-!
# An address in all its spellings

An address is put in its stored form when a user signs up, and again when somebody signs in. The two
agree, so that the user is found under every way to type the address, and nobody else can sign up with
another one.

* `Field.email_respelled`: the rule for addresses says the same of every spelling, for better or worse, and
  `Field.email_email` that it leaves alone what it has accepted.
* `Spelling` is "a way to type an address that was accepted once".
* `Sessions.Addressed.addressKey_eq`: what is looked up is the stored form.
* `Store.NoTwins`: there are no two users whose addresses are spellings of one another.
* `OneAccount` is the whole, and `spellings_agree` says that it is so.
-/

/-! ### The rule for addresses -/

/-- **The rule says the same of every spelling.** -/
theorem Field.email_respelled {raw typed : String} (again : Email.Respelled raw typed) :
    Field.email typed = Field.email raw := by
  simp only [Field.email, again.canonical_eq]

/-- **What was accepted is accepted as it is.** -/
theorem Field.email_email {raw email : String} (accepted : Field.email raw = .ok email) :
    Field.email email = .ok email := by
  obtain ⟨rfl, hne, hformat⟩ := Accounts.email_eq_ok_iff.1 accepted
  have hsame := Email.canonical_canonical raw
  rw [Accounts.email_eq_ok_iff, hsame]
  exact ⟨rfl, hne, hformat⟩

/-- Ways to type an address: as it was typed at first, and as it is stored, with letters in either case and
    blanks at the ends. -/
inductive Spelling (raw : String) : String → Prop where
  | typed {typed : String} (again : Email.Respelled raw typed) : Spelling raw typed
  | stored {email typed : String} (accepted : Field.email raw = .ok email)
      (again : Email.Respelled email typed) : Spelling raw typed

/-- Every spelling is accepted as the same address. -/
theorem Spelling.accepted {raw email typed : String} (accepted : Field.email raw = .ok email)
    (spelling : Spelling raw typed) : Field.email typed = .ok email := by
  cases spelling with
  | typed again => exact (Field.email_respelled again).trans accepted
  | stored accepted' again =>
    obtain rfl := Except.ok.inj (accepted.symm.trans accepted')
    exact (Field.email_respelled again).trans (Field.email_email accepted)

/-! ### Signing in -/

namespace Sessions

/-- The sign-in is for an address, in one of its spellings. -/
def Addressed (s : SignIn) (raw : String) : Prop := ∃ typed, s.email = some typed ∧ Spelling raw typed

/-- A sign-in from somewhere for a purpose first of all looks up an address. -/
def LooksUp (h : Hasher) (s : SignIn) (email : String) : Prop :=
  ∀ r p, s.clientIp ≠ "" → Requests s p →
    ∃ next, (create h r (some s)).run = .ask (.users (.getByEmail email)) next

/-- A sign-in finds a user, and goes on with that user. -/
structure Finds (h : Hasher) (S : Store) (s : SignIn) (u : User) : Prop where
  found : ∀ o, (findUser s).runOn o S = (.ok (some u.refreshPasswordSet), S)
  followed : ∀ r o p, s.clientIp ≠ "" → Requests s p →
    (create h r (some s)).runOn o S = (openFor h r s p u.refreshPasswordSet).runOn o S

variable {h : Hasher} {s : SignIn} {raw email : String} {S : Store} {u : User}

/-- **The key of a sign-in** is the stored form of the address. -/
theorem Addressed.addressKey_eq (addressed : Addressed s raw) (accepted : Field.email raw = .ok email) :
    addressKey s = some email := by
  obtain ⟨typed, htyped, spelling⟩ := addressed
  obtain ⟨rfl, hne, -⟩ := Accounts.email_eq_ok_iff.1 (spelling.accepted accepted)
  exact addressKey_eq_some_iff.2 ⟨typed, htyped, hne, rfl⟩

/-- The key is what is looked up. -/
theorem looksUp_of_key (key : addressKey s = some email) : LooksUp h s email := by
  intro r p hip requests
  rw [create_of_issuable hip requests.issuable_eq, findUser, key]
  exact ⟨_, rfl⟩

/-- The user who has the address is found. -/
theorem finds_of_key (unique : S.UniqueEmails) (hu : u ∈ S.users) (live : u.isLive = true)
    (hemail : u.email = some email) (key : addressKey s = some email) : Finds h S s u := by
  have hfind : S.users.find? (Store.hasEmail email) = some u :=
    unique.find?_hasEmail hu (Store.hasEmail_iff.2 ⟨hemail, live⟩)
  constructor
  · intro o
    rw [findUser, key]
    show (Service.users createContext (.getByEmail email)).runOn o S = _
    rw [Service.runOn_users]
    show (Except.ok ((S.users.find? (Store.hasEmail email)).map User.refreshPasswordSet), S) = _
    rw [hfind, Option.map_some]
  · intro r o p hip requests
    rw [runOn_create hip requests.issuable_eq key, hfind]
    rfl

end Sessions

/-! ### Signing up -/

namespace Accounts

/-- Whoever has been signed up with an address has it as the rule gives it, and nobody had it before. -/
theorem accepted_of_create {h : Hasher} {r : Request} {o : Surroundings} {S S' : Store} {d : UserDraft}
    {u : User}
    {raw : String} (hraw : d.email = some raw) (done : (create h r (some d)).runOn o S = (.ok u, S')) :
    ∃ email, Field.email raw = .ok email ∧ u.email = some email ∧ u.isLive = true ∧ Free S u.email ∧
      S' = withUser S u := by
  obtain ⟨hash, hchecked, free, hu, hstore⟩ := exists_newcomer_of_create done
  have hemail : u.email = (storedForms d).email := by rw [hu]; rfl
  have live : u.isLive = true := by rw [hu]; rfl
  have hcanonical : (storedForms d).email = some (Email.canonical raw) :=
    congrArg (Option.map Email.canonical) hraw
  obtain ⟨raw', hraw', accepted⟩ := supplied_eq_some (hcanonical ▸ (check_ok hchecked).1)
  obtain rfl : raw = raw' := Option.some.inj (hraw.symm.trans hraw')
  exact ⟨_, accepted, hemail.trans hcanonical, live, hemail ▸ free, hstore⟩

end Accounts

/-! ### One account for each address -/

namespace Store

/-- Live users whose addresses are spellings of one another are the same. -/
def NoTwins (S : Store) : Prop :=
  ∀ u ∈ S.users, ∀ v ∈ S.users, u.isLive = true → v.isLive = true →
    ∀ email email', u.email = some email → v.email = some email' → Email.Respelled email email' → u = v

/-- The addresses of live users have passed the rule. -/
def Accepted (S : Store) : Prop :=
  ∀ u ∈ S.users, u.isLive = true → ∀ email, u.email = some email → ∃ raw, Field.email raw = .ok email

variable {S : Store}

/-- **Accepted addresses that are apart are no spellings of one another.** -/
theorem UniqueEmails.noTwins (unique : S.UniqueEmails) (accepted : S.Accepted) : S.NoTwins := by
  intro u hu v hv ulive vlive email email' huEmail hvEmail again
  obtain ⟨raw, hraw⟩ := accepted u hu ulive email huEmail
  obtain ⟨raw', hraw'⟩ := accepted v hv vlive email' hvEmail
  -- both are accepted as they are, and as spellings of one another in the same form
  obtain rfl : email' = email := Except.ok.inj <|
    calc Except.ok email' = Field.email email' := (Field.email_email hraw').symm
      _ = Field.email email := Field.email_respelled again
      _ = .ok email := Field.email_email hraw
  exact unique.eq_of_hasEmail hu hv (hasEmail_iff.2 ⟨huEmail, ulive⟩) (hasEmail_iff.2 ⟨hvEmail, vlive⟩)

end Store

/-- The addresses in a well-formed store have passed the rule. -/
theorem Email.Stored.accepted {email : String} (stored : Email.Stored email) :
    Field.email email = .ok email := by
  refine Accounts.email_eq_ok_iff.2 ⟨stored.canonical.symm, ?_, ?_⟩
  · have hempty : Email.isFormat "" = false := by decide
    rw [stored.canonical]
    rintro rfl
    exact Bool.false_ne_true (hempty.symm.trans stored.format)
  · rw [stored.canonical]
    exact stored.format

/-- An address makes one account, however it is typed. -/
structure OneAccount (h : Hasher) : Prop where
  /-- The rule for addresses says the same of every spelling, be it the form or what is wrong, -/
  rule : ∀ {raw typed}, Email.Respelled raw typed → Field.email typed = Field.email raw
  /-- and what it has accepted it leaves as it is. -/
  final : ∀ {raw email}, Field.email raw = .ok email → Field.email email = .ok email
  /-- What a sign-in looks up is what the rule gives, -/
  key : ∀ {raw email s}, Field.email raw = .ok email → Sessions.Addressed s raw → Sessions.LooksUp h s email
  /-- and so, where live users have different addresses, it finds the one who has it. -/
  found : ∀ {S : Store} {raw email u s}, S.UniqueEmails → u ∈ S.users → u.isLive = true →
    Field.email raw = .ok email → u.email = some email → Sessions.Addressed s raw → Sessions.Finds h S s u
  /-- Who has signed up with an address has it in the form that the rule gives, and is found at once. -/
  signedUp : ∀ {S S' : Store} {r o d raw u}, S.UniqueEmails → d.email = some raw →
    (Accounts.create h r (some d)).runOn o S = (.ok u, S') →
    S'.UniqueEmails ∧ u ∈ S'.users ∧ u.isLive = true ∧
      (∃ email, Field.email raw = .ok email ∧ u.email = some email) ∧
      ∀ s, Sessions.Addressed s raw → Sessions.Finds h S' s u
  /-- No two live users have spellings of the same address, where addresses have passed the rule, -/
  apart : ∀ {S : Store}, S.UniqueEmails → S.Accepted → S.NoTwins
  /-- as they have at every point of every run. -/
  throughout : ∀ {T c}, FaithfulRun h T c → c.shared.UniqueEmails ∧ c.shared.Accepted ∧ c.shared.NoTwins

/-- **All spellings of an address stand for the same account.** -/
theorem spellings_agree (h : Hasher) : OneAccount h where
  rule := Field.email_respelled
  final := Field.email_email
  key := fun accepted addressed => Sessions.looksUp_of_key (addressed.addressKey_eq accepted)
  found := fun unique hu live accepted hemail addressed =>
    Sessions.finds_of_key unique hu live hemail (addressed.addressKey_eq accepted)
  signedUp := by
    intro S S' r o d raw u unique hraw done
    obtain ⟨email, accepted, hemail, live, free, rfl⟩ := Accounts.accepted_of_create hraw done
    have hunique := Accounts.uniqueEmails_withUser unique free
    have hmem : u ∈ (Accounts.withUser S u).users := List.mem_append_right _ List.mem_cons_self
    exact ⟨hunique, hmem, live, ⟨email, accepted, hemail⟩, fun s addressed =>
      Sessions.finds_of_key hunique hmem live hemail (addressed.addressKey_eq accepted)⟩
  apart := Store.UniqueEmails.noTwins
  throughout := by
    intro T c run
    have hunique := Store.uniqueEmails_of_run run.toRun
    have accepted : c.shared.Accepted := fun u hu _ email hemail =>
      ⟨email, ((run.inOrder.rows.users u hu).email email hemail).accepted⟩
    exact ⟨hunique, accepted, hunique.noTwins accepted⟩

/-- A sign-in with the address of `Accounts.addressDraft`, in capitals and with other blanks. -/
def shoutedSignIn : SignIn := { addressSignIn with email := some "\tANN@EXAMPLE.COM\u00a0" }

/-- It finds the user who has signed up with the draft. -/
theorem spellings_agree_shouted :
    (Accounts.create plainHasher (.new "r" .epoch) (some Accounts.addressDraft)).runOn (.calm .epoch) .empty
        = (.ok Accounts.ann, addressStore) ∧
      Sessions.Addressed shoutedSignIn " Ann@Example.com " ∧
      Sessions.Finds plainHasher addressStore shoutedSignIn Accounts.ann := by
  have done : (Accounts.create plainHasher (.new "r" .epoch) (some Accounts.addressDraft)).runOn
    (.calm .epoch)
      .empty = (.ok Accounts.ann, addressStore) := by
    rw [Accounts.create_of_check Accounts.check_addressDraft]
    rfl
  have stripped : Email.Respelled (" " ++ "Ann@Example.com" ++ " ") "Ann@Example.com" :=
    .stripped (List.all_eq_true.1 (by decide)) (List.all_eq_true.1 (by decide)) _
  have recased : Email.Respelled "Ann@Example.com" "ANN@EXAMPLE.COM" := .recased (by decide)
  have padded : Email.Respelled "ANN@EXAMPLE.COM" ("\t" ++ "ANN@EXAMPLE.COM" ++ "\u00a0") :=
    .padded (List.all_eq_true.1 (by decide)) (List.all_eq_true.1 (by decide)) _
  have addressed : Sessions.Addressed shoutedSignIn " Ann@Example.com " :=
    ⟨_, rfl, .typed (stripped.trans (recased.trans padded))⟩
  obtain ⟨-, -, -, -, found⟩ := (spellings_agree plainHasher).signedUp Store.empty_uniqueEmails rfl done
  exact ⟨done, addressed, found shoutedSignIn addressed⟩

end Turnstile
