import Mathlib.Data.List.Forall2
import Turnstile.Proofs.Credential.Authorization
import Turnstile.Proofs.Sessions.Enumeration
import Turnstile.Proofs.Text.Recase

namespace Turnstile

open Credential (Hasher)

/-!
# Exactly when a session is issued

A sign-in either admits a user, and then opens one session, or something is wrong with it, and then it
changes nothing. Of several faults the first counts.

* `Purpose.Spelled` is "the text is the name of the purpose, but for blanks and capitals", and
  `Purpose.parse_eq_ok_iff` says that purposes are read so.
* `Admits` is what a sign-in has to be like, `Opens` is what it then does, and `Refused` lists the faults in
  their order.
* Every sign-in admits a user or has a first fault (`admits_or_refused`), and comes back accordingly
  (`runOn_create_of_admits`, `runOn_create_of_refused`). `create_exact` reads this from the answer.
-/

/-! ### Reading purposes -/

namespace Purpose

/-- The capital of a character is this one exactly if the character is it or its small form. -/
theorem toUpper_eq_iff {c n : Char} (hn : n.isLower = false) :
    c.toUpper = n ↔ c = n ∨ c = n.toLower := by
  have hrange : n.isLower = decide (97 ≤ n.toNat ∧ n.toNat ≤ 122) := by
    rw [Bool.decide_and]
    rfl
  rw [hrange, decide_eq_false_iff_not] at hn
  rw [← Char.toNat_inj, ← Char.toNat_inj, ← Char.toNat_inj, Text.toNat_toUpper, Text.toNat_toLower]
  split <;> split <;> omega

/-- The text is the name of the purpose, but for blanks around it and for capitals and small letters. -/
def Spelled (p : Purpose) (raw : String) : Prop :=
  List.Forall₂ (fun c n => c = n ∨ c = n.toLower) (Text.trim raw).toList p.name.toList

variable {p q : Purpose} {raw : String}

theorem ofName?_eq_some_iff {text : String} : ofName? text = some p ↔ text = p.name := by
  refine ⟨fun h => ?_, fun h => h ▸ ofName?_name p⟩
  rw [ofName?.eq_def] at h
  split at h <;> cases h <;> rfl

/-- No letter of a name is small. -/
theorem isLower_of_mem_name : ∀ n ∈ p.name.toList, n.isLower = false := by
  have hall : (p.name.toList.all fun n => !n.isLower) = true := by cases p <;> decide
  intro n hn
  simpa using List.all_eq_true.1 hall n hn

theorem spelled_iff : p.Spelled raw ↔ (Text.trim raw).toUpper = p.name := by
  have hmap (cs ns : List Char) (hns : ∀ n ∈ ns, n.isLower = false) :
      List.Forall₂ (fun c n => c = n ∨ c = n.toLower) cs ns ↔ cs.map Char.toUpper = ns := by
    induction ns generalizing cs with
    | nil => cases cs <;> simp
    | cons n ns ih =>
      obtain ⟨hn, hns⟩ := List.forall_mem_cons.1 hns
      cases cs with
      | nil => simp
      | cons c cs => rw [List.forall₂_cons, ih cs hns, List.map_cons, List.cons.injEq, toUpper_eq_iff hn]
  rw [Spelled, hmap _ _ isLower_of_mem_name, String.toUpper, ← String.toList_inj, String.toList_map]

/-- **The purpose that is read** is the one that the text spells. -/
theorem parse_eq_ok_iff : parse raw = .ok p ↔ p.Spelled raw := by
  rw [spelled_iff, parse]
  have hsome : p.name ≠ "" := by cases p <;> decide
  constructor
  · intro h
    split at h
    · cases h
    · split at h
      · next q hq =>
        cases h
        exact ofName?_eq_some_iff.1 hq
      · cases h
  · intro h
    simp only [h, if_neg hsome, ofName?_name]

/-- No purpose is given exactly if the text is blank. -/
theorem parse_eq_missing_iff : parse raw = .error .missing ↔ Sessions.Blank raw := by
  have hempty : (Text.trim raw).toUpper = "" ↔ Text.trim raw = "" := by
    rw [String.toUpper, ← String.toList_inj, ← String.toList_inj, String.toList_map]
    exact List.map_eq_nil_iff
  rw [Sessions.Blank, ← Text.trim_eq_empty_iff, ← hempty, parse]
  constructor
  · intro h
    split at h
    · assumption
    · split at h <;> cases h
  · intro h
    simp only [h, if_pos]

end Purpose

namespace Sessions

/-! ### Who is admitted -/

/-- The request asks for a purpose that signing in may issue. -/
structure Requests (s : SignIn) (p : Purpose) : Prop where
  offered : p = .sessionCreate ∨ p = .passwordReset
  spelled : p.Spelled s.purpose

/-- The request names a live user: its address is the stored form of the one that was typed. -/
structure Identifies (S : Store) (s : SignIn) (u : User) : Prop where
  mem : u ∈ S.users
  live : u.isLive = true
  typed : ∃ raw, s.email = some raw ∧ Email.canonical raw ≠ "" ∧ u.email = some (Email.canonical raw)

/-- To open an ordinary session for a user with a password, the password is given and matches its hash. -/
def Proves (h : Hasher) (s : SignIn) (u : User) (p : Purpose) : Prop :=
  p = .sessionCreate → ∀ hash, u.passwordHash = some hash →
    ∃ password, s.password = some password ∧ h.compare hash password = true

/-- The request admits a user for a purpose. -/
structure Admits (h : Hasher) (S : Store) (s : SignIn) (u : User) (p : Purpose) : Prop where
  clientIp : s.clientIp ≠ ""
  requests : Requests s p
  identifies : Identifies S s u
  proves : Proves h s u p

/-- The request is turned away with a failure: that of the first fault. -/
inductive Refused (h : Hasher) (S : Store) : Option SignIn → ServiceFailure → Prop where
  | paramsMissing : Refused h S none (.rejected .userSessionCreateParamsMissing)
  | clientIpMissing {s : SignIn} (clientIp : s.clientIp = "") :
      Refused h S (some s) (.system (.invariant createContext "client ip is missing"))
  | purposeMissing {s : SignIn} (clientIp : s.clientIp ≠ "") (blank : Blank s.purpose) :
      Refused h S (some s) (.rejected .userSessionPurposeMissing)
  | purposeInvalid {s : SignIn} (clientIp : s.clientIp ≠ "") (given : ¬ Blank s.purpose)
      (other : ∀ p, ¬ Requests s p) : Refused h S (some s) (.rejected .userSessionPurposeInvalid)
  | unknown {s : SignIn} {p : Purpose} (clientIp : s.clientIp ≠ "") (requests : Requests s p)
      (nobody : ∀ u, ¬ Identifies S s u) : Refused h S (some s) (.rejected .userSessionCredentialsInvalid)
  | passwordMissing {s : SignIn} {u : User} {hash : String} (clientIp : s.clientIp ≠ "")
      (requests : Requests s .sessionCreate) (identifies : Identifies S s u)
      (secured : u.passwordHash = some hash) (absent : s.password = none) :
      Refused h S (some s) (.rejected .userSessionPasswordMissing)
  | passwordWrong {s : SignIn} {u : User} {hash password : String} (clientIp : s.clientIp ≠ "")
      (requests : Requests s .sessionCreate) (identifies : Identifies S s u)
      (secured : u.passwordHash = some hash) (given : s.password = some password)
      (differs : h.compare hash password = false) :
      Refused h S (some s) (.rejected .userSessionCredentialsInvalid)

/-- **A request admits a user or has a first fault.** -/
theorem admits_or_refused (h : Hasher) (S : Store) (signIn : Option SignIn) :
    (∃ s u p, signIn = some s ∧ Admits h S s u p) ∨ ∃ f, Refused h S signIn f := by
  cases signIn with
  | none => exact .inr ⟨_, .paramsMissing⟩
  | some s =>
    by_cases clientIp : s.clientIp = ""
    · exact .inr ⟨_, .clientIpMissing clientIp⟩
    by_cases blank : Blank s.purpose
    · exact .inr ⟨_, .purposeMissing clientIp blank⟩
    by_cases requested : ∃ p, Requests s p
    · obtain ⟨p, requests⟩ := requested
      by_cases identified : ∃ u, Identifies S s u
      · obtain ⟨u, identifies⟩ := identified
        by_cases proves : Proves h s u p
        · exact .inl ⟨s, u, p, rfl, clientIp, requests, identifies, proves⟩
        -- the purpose is an ordinary session, and the user has a password
        simp only [Proves, Classical.not_imp, not_forall] at proves
        obtain ⟨rfl, hash, secured, unproved⟩ := proves
        cases given : s.password with
        | none => exact .inr ⟨_, .passwordMissing clientIp requests identifies secured given⟩
        | some password =>
          have differs : h.compare hash password = false := by
            rw [← Bool.not_eq_true]
            exact fun matching => unproved ⟨password, given, matching⟩
          exact .inr ⟨_, .passwordWrong clientIp requests identifies secured given differs⟩
      · exact .inr ⟨_, .unknown clientIp requests fun u identifies => identified ⟨u, identifies⟩⟩
    · exact .inr ⟨_, .purposeInvalid clientIp blank fun p requests => requested ⟨p, requests⟩⟩

/-! ### The checks of a sign-in -/

variable {h : Hasher} {r : Request} {o : Surroundings} {S : Store} {s : SignIn} {signIn : Option SignIn}
  {u : User} {p : Purpose} {raw : String}

theorem Requests.issuable_eq (requests : Requests s p) : issuable s.purpose = .ok p := by
  rw [issuable, Purpose.parse_eq_ok_iff.2 requests.spelled]
  rcases requests.offered with rfl | rfl <;> rfl

theorem issuable_eq_missing (blank : Blank raw) : issuable raw = .error .userSessionPurposeMissing := by
  rw [issuable, Purpose.parse_eq_missing_iff.2 blank]

theorem issuable_eq_invalid (given : ¬ Blank s.purpose) (other : ∀ p, ¬ Requests s p) :
    issuable s.purpose = .error .userSessionPurposeInvalid := by
  rw [issuable]
  cases hparse : Purpose.parse s.purpose with
  | ok p =>
    have spelled := Purpose.parse_eq_ok_iff.1 hparse
    cases p with
    | sessionCreate => exact absurd ⟨.inl rfl, spelled⟩ (other _)
    | passwordReset => exact absurd ⟨.inr rfl, spelled⟩ (other _)
    | impersonate => rfl
  | error fault =>
    cases fault with
    | missing => exact absurd (Purpose.parse_eq_missing_iff.1 hparse) given
    | unknown text => rfl

/-- An address that is looked up is the stored form of the one that was typed. -/
theorem addressKey_eq_some_iff {email : String} :
    addressKey s = some email ↔ ∃ raw, s.email = some raw ∧ Email.canonical raw ≠ "" ∧
      email = Email.canonical raw := by
  rw [addressKey]
  cases s.email with
  | none => simp
  | some raw =>
    simp only [Option.map_some, Option.filter_eq_some_iff, Option.some.injEq, exists_eq_left',
      decide_eq_true_eq]
    constructor
    · rintro ⟨rfl, hne⟩
      exact ⟨hne, rfl⟩
    · rintro ⟨hne, rfl⟩
      exact ⟨rfl, hne⟩

/-- A user who is named is found, where live users have different addresses. -/
theorem Identifies.finds (unique : S.UniqueEmails) (identifies : Identifies S s u) :
    ∃ email, addressKey s = some email ∧ S.users.find? (Store.hasEmail email) = some u := by
  obtain ⟨mem, live, raw, hraw, hne, hemail⟩ := identifies
  exact ⟨_, addressKey_eq_some_iff.2 ⟨raw, hraw, hne, rfl⟩,
    unique.find?_hasEmail mem (Store.hasEmail_iff.2 ⟨hemail, live⟩)⟩

/-- Who is found is named. -/
theorem identifies_of_find? {email : String} (key : addressKey s = some email)
    (found : S.users.find? (Store.hasEmail email) = some u) : Identifies S s u := by
  obtain ⟨raw, hraw, hne, rfl⟩ := addressKey_eq_some_iff.1 key
  obtain ⟨hemail, hlive⟩ := Store.hasEmail_iff.1 (List.find?_some found)
  exact ⟨List.mem_of_find?_eq_some found, hlive, raw, hraw, hne, hemail⟩

/-- Whether the password is proved is what the check says. -/
theorem checkPassword_of_proves (proves : Proves h s u p) :
    checkPassword h s p u.refreshPasswordSet = .ok () := by
  rw [checkPassword]
  by_cases asked : p = .sessionCreate ∧ u.refreshPasswordSet.passwordHash.isSome
  · obtain ⟨hash, secured⟩ := Option.isSome_iff_exists.1 asked.2
    obtain ⟨password, given, matching⟩ := proves asked.1 hash secured
    rw [if_pos asked, given]
    simp only [User.hasPassword, secured, matching, if_true]
  · rw [if_neg asked]

theorem checkPassword_of_secured {hash : String} (secured : u.passwordHash = some hash) :
    checkPassword h s .sessionCreate u.refreshPasswordSet
      = s.password.elim (.error .userSessionPasswordMissing) fun password =>
        if h.compare hash password then .ok () else .error .userSessionCredentialsInvalid := by
  have asked : Purpose.sessionCreate = .sessionCreate ∧ u.refreshPasswordSet.passwordHash.isSome := by
    refine ⟨rfl, ?_⟩
    show u.passwordHash.isSome = true
    rw [secured]
    rfl
  have hhas (password : String) : u.refreshPasswordSet.hasPassword h password = h.compare hash password := by
    show u.hasPassword h password = _
    simp only [User.hasPassword, secured]
  rw [checkPassword, if_pos asked]
  cases s.password with
  | none => rfl
  | some password => simp only [hhas, Option.elim]

/-! ### A request with a fault -/

/-- A request that names nobody by an address is turned away. -/
theorem turnsAway_of_unnamed (hip : s.clientIp ≠ "") (hpurpose : issuable s.purpose = .ok p)
    (unnamed : addressKey s = none) : TurnsAway h r o s S .userSessionCredentialsInvalid := by
  rw [TurnsAway, create_of_issuable hip hpurpose, findUser, unnamed]
  rfl

/-- **A request with a fault** is turned away with the failure of its first fault, and changes nothing. -/
theorem runOn_create_of_refused (unique : S.UniqueEmails) {f : ServiceFailure}
    (refused : Refused h S signIn f) : (create h r signIn).runOn o S = (.error f, S) := by
  -- the purpose comes behind the address of the request
  have hpurpose {s : SignIn} (hip : s.clientIp ≠ "") {rejection : Rejection}
      (hissuable : issuable s.purpose = .error rejection) :
      (create h r (some s)).runOn o S = (.error (.rejected rejection), S) := by
    rw [create_of_clientIp hip, hissuable]
    rfl
  cases refused with
  | paramsMissing => rfl
  | clientIpMissing clientIp =>
    rw [create]
    show (if SignIn.clientIp _ = "" then _ else _ : Service Session).runOn o S = _
    rw [if_pos clientIp]
    rfl
  | purposeMissing clientIp blank => exact hpurpose clientIp (issuable_eq_missing blank)
  | purposeInvalid clientIp given other => exact hpurpose clientIp (issuable_eq_invalid given other)
  | @unknown s p clientIp requests nobody =>
    cases key : addressKey s with
    | none => exact turnsAway_of_unnamed clientIp requests.issuable_eq key
    | some email =>
      refine turnsAway_of_unknown clientIp requests.issuable_eq key ?_
      rw [Option.eq_none_iff_forall_ne_some]
      exact fun u found => nobody u (identifies_of_find? key found)
  | passwordMissing clientIp requests identifies secured absent =>
    obtain ⟨email, key, found⟩ := identifies.finds unique
    refine turnsAway_of_refused clientIp requests.issuable_eq key found ?_
    rw [checkPassword_of_secured secured, absent, Option.elim_none]
  | passwordWrong clientIp requests identifies secured given differs =>
    obtain ⟨email, key, found⟩ := identifies.finds unique
    refine turnsAway_of_refused clientIp requests.issuable_eq key found ?_
    rw [checkPassword_of_secured secured, given, Option.elim_some, differs, if_neg Bool.false_ne_true]

/-! ### A request that admits -/

/-- What a sign-in opens for a user: one new session, which carries a token that matches its hash and expires
    a lifetime from now. Its row is without the token, and nothing else is changed. -/
structure Opens (h : Hasher) (now : Instant) (S : Store) (s : SignIn) (u : User) (p : Purpose) (x : Session)
    (S' : Store) : Prop where
  stored : S' = { S.tick with
    sessions := S.sessions ++ [Store.keptSession x], lastSession := S.lastSession + 1 }
  userId : x.userId = u.id
  clientIp : x.clientIp = s.clientIp
  purpose : x.purpose = p
  token : ∃ token, x.token = some token ∧ h.compare x.tokenHash token = true
  expires : ∃ t, Expiry.compute? now = some t ∧ x.expireAt = some t ∧
    (now.Ordinary → t.elapsed = now.elapsed + Expiry.lifetime)
  stamped : x.id = S.lastSession + 1 ∧ x.createdAt = S.stamp ∧ x.deletedAt = none

/-- A token that is drawn is not that of another session. -/
def Fresh (h : Hasher) (o : Surroundings) (S : Store) : Prop :=
  ∀ issued, Credential.tokenCreate h (o .draw) = .ok issued → ∀ x ∈ S.sessions, x.tokenHash ≠ issued.hash

theorem runOn_prepare {issued : Credential.IssuedToken} {t : Instant}
    (hissued : Credential.tokenCreate h (o .draw) = .ok issued) (ht : Expiry.compute? (o .clock) = some t)
    (x : Session) : (prepare h x).runOn o S =
      (.ok { x with token := some issued.token, tokenHash := issued.hash, expireAt := some t }, S) := by
  have htoken : x.issueToken h (o .draw) =
      .ok { x with token := some issued.token, tokenHash := issued.hash } := by
    rw [Session.issueToken, hissued]
    rfl
  rw [prepare, Service.runOn_bind, Service.runOn_perform]
  show (Service.credential createContext (x.issueToken h (o .draw)) >>= _ : Service Session).runOn o S = _
  rw [htoken]
  show (Service.perform .clock >>= _ : Service Session).runOn o S = _
  rw [Service.runOn_bind, Service.runOn_clock, Service.goOn_ok, ht]
  rfl

/-- A session with a fresh hash is inserted. -/
theorem createSession_of_fresh {x : Session} (fresh : ∀ y ∈ S.sessions, y.tokenHash ≠ x.tokenHash) :
    S.callSessions (.create x) = (.ok (S.newSession x), { S.tick with
      sessions := S.sessions ++ [Store.keptSession (S.newSession x)]
      lastSession := S.lastSession + 1 }) := by
  have hnone : S.sessions.any (·.tokenHash == x.tokenHash) = false := by
    rw [List.any_eq_false]
    exact fun y hy => by simpa using fresh y hy
  simp only [Store.callSessions, Store.createSession, hnone, Bool.false_eq_true, if_false]
  rfl

/-- **A request that admits** opens a session. -/
theorem runOn_create_of_admits (unique : S.UniqueEmails) (reliable : h.Reliable) {t : Instant}
    (ht : Expiry.compute? (o .clock) = some t) (fresh : Fresh h o S) (admits : Admits h S s u p) :
    ∃ x S', (create h r (some s)).runOn o S = (.ok x, S') ∧ Opens h (o .clock) S s u p x S' := by
  obtain ⟨issued, hissued, matching⟩ := reliable.tokenCreate (o .draw)
  obtain ⟨email, key, found⟩ := admits.identifies.finds unique
  have hinsert : S.callSessions (.create (opening u s.clientIp p issued.token issued.hash t)) = _ :=
    createSession_of_fresh (fresh issued hissued)
  refine ⟨S.newSession (opening u s.clientIp p issued.token issued.hash t), _, ?_, rfl, rfl, rfl, rfl,
    ⟨_, rfl, matching⟩, ⟨t, ht, rfl, fun ordinary => (Instant.addDays?_eq_some ordinary ht).2⟩, rfl,
    rfl, rfl⟩
  -- the lookup, the check of the password, the token, and the insertion
  rw [runOn_create admits.clientIp admits.requests.issuable_eq key, found]
  show (openFor h r s p u.refreshPasswordSet).runOn o S = _
  rw [openFor, Service.runOn_bind, checkPassword_of_proves admits.proves, Service.runOn_checked]
  show Service.runOn o (prepare h (Session.new u.id s.clientIp p) >>= _) S = _
  rw [Service.runOn_bind, runOn_prepare hissued ht, Service.goOn_ok, Service.runOn_bind,
    Service.runOn_sessions]
  show Service.goOn o _
    ((S.callSessions (.create (opening u s.clientIp p issued.token issued.hash t))).1.mapError _,
      (S.callSessions (.create (opening u s.clientIp p issued.token issued.hash t))).2) = _
  rw [hinsert]
  rfl

/-! ### From the answer -/

/-- What the answer of a sign-in and the store behind it say about the request and the store before. -/
structure ExactIssue (h : Hasher) (now : Instant) (S : Store) (signIn : Option SignIn)
    (answer : Except ServiceFailure Session) (S' : Store) : Prop where
  /-- It succeeds exactly if a user is admitted, -/
  issued : (∃ x, answer = .ok x) ↔ ∃ s u p, signIn = some s ∧ Admits h S s u p
  /-- and then has opened a session for that user. -/
  opens : ∀ x, answer = .ok x → ∀ s u p, signIn = some s → Admits h S s u p → Opens h now S s u p x S'
  /-- It fails with the failure of the first fault, -/
  refused : ∀ f, answer = .error f ↔ Refused h S signIn f
  /-- and then has changed nothing. -/
  kept : ∀ f, answer = .error f → S' = S

/-- **Exactly when a session is issued**, for every store, request and instant whose expiry can be
    represented. -/
theorem create_exact (unique : S.UniqueEmails) (reliable : h.Reliable) (r : Request)
    (expires : (Expiry.compute? (o .clock)).isSome = true) (fresh : Fresh h o S) (signIn : Option SignIn) :
    ExactIssue h (o .clock) S signIn ((create h r signIn).runOn o S).1
    ((create h r signIn).runOn o S).2 := by
  obtain ⟨t, ht⟩ := Option.isSome_iff_exists.1 expires
  have hadmitted (s : SignIn) (u : User) (p : Purpose) (hs : signIn = some s) (admits : Admits h S s u p) :
      ∃ x S', (create h r signIn).runOn o S = (.ok x, S') ∧ Opens h (o .clock) S s u p x S' :=
    hs ▸ runOn_create_of_admits unique reliable ht fresh admits
  have hrefused (f : ServiceFailure) (refused : Refused h S signIn f) :
      (create h r signIn).runOn o S = (.error f, S) := runOn_create_of_refused unique refused
  -- one of the two applies, so the answer tells which
  generalize (create h r signIn).runOn o S = result at hadmitted hrefused
  obtain ⟨answer, S'⟩ := result
  refine ⟨⟨?_, ?_⟩, ?_, fun f => ⟨?_, fun refused => congrArg Prod.fst (hrefused f refused)⟩, ?_⟩
  · rintro ⟨x, rfl⟩
    rcases admits_or_refused h S signIn with admitted | ⟨f, refused⟩
    · exact admitted
    · cases hrefused f refused
  · rintro ⟨s, u, p, hs, admits⟩
    obtain ⟨x, S', heq, -⟩ := hadmitted s u p hs admits
    exact ⟨x, congrArg Prod.fst heq⟩
  · rintro x rfl s u p hs admits
    obtain ⟨x', S'', heq, opens⟩ := hadmitted s u p hs admits
    cases heq
    exact opens
  · rintro rfl
    rcases admits_or_refused h S signIn with ⟨s, u, p, hs, admits⟩ | ⟨f', refused⟩
    · obtain ⟨x, S', heq, -⟩ := hadmitted s u p hs admits
      cases heq
    · cases hrefused f' refused
      exact refused
  · rintro f rfl
    rcases admits_or_refused h S signIn with ⟨s, u, p, hs, admits⟩ | ⟨f', refused⟩
    · obtain ⟨x, S', heq, -⟩ := hadmitted s u p hs admits
      cases heq
    · cases hrefused f' refused
      rfl

/-! ### A request in odd spelling -/

/-- A request whose address and purpose are spelled in a way of their own. -/
def oddSignIn : SignIn where
  email := some " Ann@Example.com "
  password := some "secret"
  purpose := "\tSession_Create "
  clientIp := "::1"

theorem admits_oddSignIn : Admits plainHasher securedStore oddSignIn securedAnn .sessionCreate where
  clientIp := show "::1" ≠ "" by decide
  requests := ⟨.inl rfl, Purpose.spelled_iff.2 (by decide +kernel)⟩
  identifies :=
    ⟨List.mem_singleton.2 rfl, rfl, " Ann@Example.com ", rfl, by decide +kernel, by decide +kernel⟩
  proves := by
    rintro - hash secured
    cases secured
    exact ⟨"secret", rfl, by decide⟩

/-- It opens the first session. -/
theorem create_exact_oddSignIn : securedStore.UniqueEmails ∧ plainHasher.Reliable ∧
    (Expiry.compute? .epoch).isSome = true ∧ Fresh plainHasher (.calm .epoch) securedStore ∧
    ∃ x, ((create plainHasher (.new "r" .epoch) (some oddSignIn)).runOn (.calm .epoch) securedStore).1
        = .ok x ∧
      x.id = 1 ∧ x.userId = 1 ∧ x.purpose = .sessionCreate ∧ x.expireAt = some ⟨1209600, 0⟩ := by
  have expires : (Expiry.compute? ((Surroundings.calm .epoch) .clock)).isSome = true := by decide
  have fresh : Fresh plainHasher (.calm .epoch) securedStore := fun _ _ _ hx => nomatch hx
  have exact := create_exact securedStore_uniqueEmails plainHasher_reliable (.new "r" .epoch) expires fresh
    (some oddSignIn)
  obtain ⟨x, hx⟩ := exact.issued.2 ⟨_, _, _, rfl, admits_oddSignIn⟩
  have opens := exact.opens x hx _ _ _ rfl admits_oddSignIn
  obtain ⟨t, ht, hexpire, -⟩ := opens.expires
  cases ht
  exact ⟨securedStore_uniqueEmails, plainHasher_reliable, expires, fresh, x, hx, opens.stamped.1,
    opens.userId, opens.purpose, hexpire⟩

end Sessions

end Turnstile
