import Turnstile.Proofs.Credential.Authorization
import Turnstile.Proofs.Sessions.Lifetime

namespace Turnstile.Sessions

open Credential (Hasher)

/-!
# Exactly what a verification answers

A verification answers in one of seven ways, and the first thing that is wrong decides which.

* `Names` is "the text names this session", `Bears` is "and it has the right token", `Expired` is about the
  time, and `Owns` about the user.
* `Outcome` lists the seven ways with what leads to each. There is always one (`exists_outcome`), and it is
  the answer (`runOn_verify_outcome`).
* `verify_exact` reads the list the other way: from the answer to what has led to it. Who does not have the
  token is told the same whether the session has expired or not, and whether there is a user or not.
-/

variable {h : Hasher} {s : Store} {now : Instant} {authorization : String}

/-! ### What is looked at -/

/-- The text stands for the session, which has not been deleted, with a token. -/
def Names (s : Store) (authorization : String) (x : Session) (token : String) : Prop :=
  Presents authorization x.id token ∧ x ∈ s.sessions ∧ x.isLive = true

/-- The text names the session, and the token in it matches the session's hash. -/
def Bears (h : Hasher) (s : Store) (authorization : String) (x : Session) : Prop :=
  ∃ token, Names s authorization x token ∧ h.compare x.tokenHash token = true

/-- The session has an expiry, and it lies before the instant. -/
def Expired (x : Session) (now : Instant) : Prop := ∃ t, x.expireAt = some t ∧ t < now

/-- The user whose session it is, who has not been deleted, as lookups give him. -/
def Owns (s : Store) (x : Session) (u : User) : Prop :=
  ∃ row ∈ s.users, row.id = x.userId ∧ row.isLive = true ∧ u = row.refreshPasswordSet

theorem isExpired_iff {x : Session} : x.isExpired now = true ↔ Expired x now := by
  rw [Session.isExpired, Expiry.isExpired.eq_def, Expired]
  cases x.expireAt with
  | none => exact ⟨fun hfalse => absurd hfalse Bool.false_ne_true, fun ⟨_, hnone, _⟩ => nomatch hnone⟩
  | some t =>
    exact ⟨fun hlt => ⟨t, rfl, of_decide_eq_true hlt⟩, fun ⟨_, ht, hlt⟩ =>
      decide_eq_true (Option.some.inj ht ▸ hlt)⟩

/-! ### The seven ways -/

/-- How a verification comes out, with what leads to it. -/
inductive Outcome (h : Hasher) (s : Store) (now : Instant) (authorization : String) :
    Except Rejection (Session × User) → Prop where
  | missing (blank : Blank authorization) : Outcome h s now authorization (.error .authorizationMissing)
  | invalid (written : ¬ Blank authorization) (unreadable : ¬ ∃ id token, Presents authorization id token) :
      Outcome h s now authorization (.error .authorizationInvalid)
  | notFound {id : Id} {token : String} (presents : Presents authorization id token)
      (absent : ¬ ∃ x ∈ s.sessions, x.id = id ∧ x.isLive = true) :
      Outcome h s now authorization (.error .userSessionNotFound)
  | wrong {x : Session} {token : String} (names : Names s authorization x token)
      (differs : h.compare x.tokenHash token = false) :
      Outcome h s now authorization (.error .authorizationWrong)
  | expired {x : Session} (bears : Bears h s authorization x) (passed : Expired x now) :
      Outcome h s now authorization (.error .authorizationExpired)
  | userNotFound {x : Session} (bears : Bears h s authorization x) (runs : ¬ Expired x now)
      (absent : ¬ ∃ u, Owns s x u) : Outcome h s now authorization (.error .userNotFound)
  | accepted {x : Session} {u : User} (bears : Bears h s authorization x) (runs : ¬ Expired x now)
      (owns : Owns s x u) : Outcome h s now authorization (.ok (x, u))

/-- There is always one of the seven. -/
theorem exists_outcome (h : Hasher) (s : Store) (now : Instant) (authorization : String) :
    ∃ result, Outcome h s now authorization result := by
  by_cases blank : Blank authorization
  · exact ⟨_, .missing blank⟩
  by_cases readable : ∃ id token, Presents authorization id token
  · obtain ⟨id, token, presents⟩ := readable
    by_cases found : ∃ x ∈ s.sessions, x.id = id ∧ x.isLive = true
    · obtain ⟨x, hx, rfl, live⟩ := found
      have names : Names s authorization x token := ⟨presents, hx, live⟩
      cases differs : h.compare x.tokenHash token with
      | false => exact ⟨_, .wrong names differs⟩
      | true =>
        have bears : Bears h s authorization x := ⟨token, names, differs⟩
        by_cases passed : Expired x now
        · exact ⟨_, .expired bears passed⟩
        by_cases owned : ∃ u, Owns s x u
        · obtain ⟨u, owns⟩ := owned
          exact ⟨_, .accepted bears passed owns⟩
        · exact ⟨_, .userNotFound bears passed owned⟩
    · exact ⟨_, .notFound presents found⟩
  · exact ⟨_, .invalid blank readable⟩

section Unique

variable (users : (s.users.map User.id).Nodup) (sessions : (s.sessions.map Session.id).Nodup)

include sessions

/-- Where a text names a session, the verdict is about this session. -/
theorem verdict_of_names {x : Session} {token : String} (names : Names s authorization x token) :
    readAuthorization authorization = .ok (x.id, token) ∧ s.liveSession? x.id = some x :=
  ⟨readAuthorization_eq_ok names.1, (Store.liveSession?_eq_some sessions).2 ⟨names.2.1, rfl, names.2.2⟩⟩

include users

/-- **A verification answers as it comes out**, and changes nothing. -/
theorem runOn_verify_outcome {r : Request} {o : Surroundings} {result : Except Rejection (Session × User)}
    (outcome : Outcome h s (o .clock) authorization result) :
    (verify h r authorization).runOn o s = (result.mapError .rejected, s) := by
  rw [runOn_verify]
  cases outcome with
  | missing blank => rw [readAuthorization_eq_missing blank]; rfl
  | invalid written unreadable => rw [readAuthorization_eq_invalid written unreadable]; rfl
  | @notFound id token presents absent =>
    have hnone : s.liveSession? id = none := by
      rw [Option.eq_none_iff_forall_ne_some]
      intro x hx
      obtain ⟨hmem, hid, live⟩ := (Store.liveSession?_eq_some sessions).1 hx
      exact absent ⟨x, hmem, hid, live⟩
    rw [readAuthorization_eq_ok presents]
    simp only [verdict, hnone]
    rfl
  | wrong names differs =>
    obtain ⟨hread, hlive⟩ := verdict_of_names sessions names
    rw [hread]
    simp only [verdict, hlive, differs, if_true]
    rfl
  | expired bears passed =>
    obtain ⟨token, names, matching⟩ := bears
    obtain ⟨hread, hlive⟩ := verdict_of_names sessions names
    rw [hread]
    simp only [verdict, hlive, matching, isExpired_iff.2 passed, Bool.true_eq_false, if_false, if_true]
    rfl
  | @userNotFound x bears runs absent =>
    obtain ⟨token, names, matching⟩ := bears
    obtain ⟨hread, hlive⟩ := verdict_of_names sessions names
    have hnone : s.liveUser? x.userId = none := by
      rw [Option.eq_none_iff_forall_ne_some]
      intro row hrow
      obtain ⟨hmem, hid, live⟩ := (Store.liveUser?_eq_some users).1 hrow
      exact absent ⟨_, row, hmem, hid, live, rfl⟩
    rw [hread]
    simp only [verdict, hlive, matching, isExpired_iff, runs, hnone, Bool.true_eq_false, if_false]
    rfl
  | @accepted x u bears runs owns =>
    obtain ⟨token, names, matching⟩ := bears
    obtain ⟨hread, hlive⟩ := verdict_of_names sessions names
    obtain ⟨row, hmem, hid, live, rfl⟩ := owns
    have hrow := (Store.liveUser?_eq_some users).2 ⟨hmem, hid, live⟩
    rw [hread]
    simp only [verdict, hlive, matching, isExpired_iff, runs, hrow, Bool.true_eq_false, if_false]
    rfl

/-- A verification answers so exactly if it comes out so. -/
theorem answer_eq_iff {r : Request} {o : Surroundings} (result : Except Rejection (Session × User)) :
    ((verify h r authorization).runOn o s).1 = result.mapError .rejected ↔
      Outcome h s (o .clock) authorization result := by
  constructor
  · intro hanswer
    obtain ⟨result', outcome⟩ := exists_outcome h s (o .clock) authorization
    rw [runOn_verify_outcome users sessions outcome] at hanswer
    have hsame : result' = result := by
      cases result' <;> cases result <;> cases hanswer <;> rfl
    exact hsame ▸ outcome
  · intro outcome
    rw [runOn_verify_outcome users sessions outcome]

end Unique

/-! ### From the answer -/

/-- What the answer of a verification at an instant says about the text and the store. -/
structure ExactAnswer (h : Hasher) (s : Store) (now : Instant) (authorization : String)
    (answer : Except ServiceFailure (Session × User)) : Prop where
  accepted : ∀ x u, answer = .ok (x, u) ↔
    Bears h s authorization x ∧ ¬ Expired x now ∧ Owns s x u
  missing : answer = .error (.rejected .authorizationMissing) ↔ Blank authorization
  invalid : answer = .error (.rejected .authorizationInvalid) ↔
    ¬ Blank authorization ∧ ¬ ∃ id token, Presents authorization id token
  notFound : answer = .error (.rejected .userSessionNotFound) ↔
    ∃ id token, Presents authorization id token ∧ ¬ ∃ x ∈ s.sessions, x.id = id ∧ x.isLive = true
  wrong : answer = .error (.rejected .authorizationWrong) ↔
    ∃ x token, Names s authorization x token ∧ h.compare x.tokenHash token = false
  expired : answer = .error (.rejected .authorizationExpired) ↔
    ∃ x, Bears h s authorization x ∧ Expired x now
  userNotFound : answer = .error (.rejected .userNotFound) ↔
    ∃ x, Bears h s authorization x ∧ ¬ Expired x now ∧ ¬ ∃ u, Owns s x u
  /-- There is no other answer. -/
  complete : ∃ result, Outcome h s now authorization result ∧ answer = result.mapError .rejected

/-- Where the answer is so exactly if the verification comes out so, each way out can be told from it. -/
theorem exactAnswer {answer : Except ServiceFailure (Session × User)}
    (hiff : ∀ result, answer = result.mapError .rejected ↔ Outcome h s now authorization result) :
    ExactAnswer h s now authorization answer where
  accepted := by
    intro x u
    refine (hiff (.ok (x, u))).trans ⟨?_, fun ⟨bears, runs, owns⟩ => .accepted bears runs owns⟩
    intro hanswer
    cases hanswer with
    | accepted bears runs owns => exact ⟨bears, runs, owns⟩
  missing := by
    refine (hiff (.error _)).trans ⟨?_, .missing⟩
    intro hanswer
    cases hanswer with
    | missing blank => exact blank
  invalid := by
    refine (hiff (.error _)).trans ⟨?_, fun ⟨written, unreadable⟩ => .invalid written unreadable⟩
    intro hanswer
    cases hanswer with
    | invalid written unreadable => exact ⟨written, unreadable⟩
  notFound := by
    refine (hiff (.error _)).trans ⟨?_, fun ⟨id, token, presents, absent⟩ => .notFound presents absent⟩
    intro hanswer
    cases hanswer with
    | notFound presents absent => exact ⟨_, _, presents, absent⟩
  wrong := by
    refine (hiff (.error _)).trans ⟨?_, fun ⟨x, token, names, differs⟩ => .wrong names differs⟩
    intro hanswer
    cases hanswer with
    | wrong names differs => exact ⟨_, _, names, differs⟩
  expired := by
    refine (hiff (.error _)).trans ⟨?_, fun ⟨x, bears, passed⟩ => .expired bears passed⟩
    intro hanswer
    cases hanswer with
    | expired bears passed => exact ⟨_, bears, passed⟩
  userNotFound := by
    refine (hiff (.error _)).trans ⟨?_, fun ⟨x, bears, runs, absent⟩ => .userNotFound bears runs absent⟩
    intro hanswer
    cases hanswer with
    | userNotFound bears runs absent => exact ⟨_, bears, runs, absent⟩
  complete := by
    obtain ⟨result, outcome⟩ := exists_outcome h s now authorization
    exact ⟨result, outcome, (hiff result).2 outcome⟩

/-- **Exactly what a verification answers**, for every text, store and instant. It changes nothing; and who
    has a wrong token for a session is told the same in any other store, at any other instant, where the hash
    is the same. -/
theorem verify_exact (users : (s.users.map User.id).Nodup) (sessions : (s.sessions.map Session.id).Nodup)
    (r : Request) (o : Surroundings) :
    ExactAnswer h s (o .clock) authorization ((verify h r authorization).runOn o s).1 ∧
      ((verify h r authorization).runOn o s).2 = s ∧
      ∀ (s' : Store) (r' : Request) (o' : Surroundings) (x x' : Session) (token : String),
        (s'.users.map User.id).Nodup → (s'.sessions.map Session.id).Nodup →
        Names s authorization x token → Names s' authorization x' token → x'.tokenHash = x.tokenHash →
        h.compare x.tokenHash token = false →
        ((verify h r' authorization).runOn o' s').1 = ((verify h r authorization).runOn o s).1 := by
  refine ⟨exactAnswer (answer_eq_iff users sessions), ?_, ?_⟩
  · rw [runOn_verify]
  · intro s' r' o' x x' token users' sessions' names names' hash differs
    -- the token is looked at before the time and before the user
    rw [runOn_verify_outcome users sessions (.wrong names differs),
      runOn_verify_outcome users' sessions' (.wrong names' (hash ▸ differs))]

/-- A session that expires at an instant, of a user without an address. -/
def lastMomentStore : Store :=
  { Store.empty with
    users := [{ User.new with id := 3 }]
    sessions := [{ Session.new 3 "::1" .sessionCreate with
      id := 7, tokenHash := "c0ffee", expireAt := some ⟨1704067200, 0⟩ }] }

/-- At that very instant it is still accepted. -/
theorem verify_exact_lastMoment :
    (lastMomentStore.users.map User.id).Nodup ∧ (lastMomentStore.sessions.map Session.id).Nodup ∧
      ExactAnswer plainHasher lastMomentStore ⟨1704067200, 0⟩ " +07-c0ffee "
        ((verify plainHasher (.new "r" .epoch) " +07-c0ffee ").runOn (.calm ⟨1704067200, 0⟩)
          lastMomentStore).1 ∧
      ∃ x u, ((verify plainHasher (.new "r" .epoch) " +07-c0ffee ").runOn (.calm ⟨1704067200, 0⟩)
        lastMomentStore).1 = .ok (x, u) ∧ x.id = 7 ∧ u.id = 3 := by
  have users : (lastMomentStore.users.map User.id).Nodup := by decide
  have sessions : (lastMomentStore.sessions.map Session.id).Nodup := by decide
  refine ⟨users, sessions, (verify_exact users sessions (.new "r" .epoch) (.calm ⟨1704067200, 0⟩)).1, ?_⟩
  have hread : readAuthorization " +07-c0ffee " = .ok (7, "c0ffee") := by decide +kernel
  rw [runOn_verify, hread]
  exact ⟨_, _, rfl, rfl, rfl⟩

end Turnstile.Sessions
