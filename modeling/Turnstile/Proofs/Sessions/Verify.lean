import Turnstile.Proofs.Service.Undisturbed

namespace Turnstile.Sessions

open Credential (Hasher)

/-!
# What a verification accepts

* `verdict` is what a verification by itself comes back with, as a function of the store and the time.
* `verdict_eq_ok` says exactly which credentials it accepts: one that names a live session and carries its
  token, where the session has not expired and its user is live.
-/

/-- What a verification comes back with at an instant, for a credential that can be read. -/
def verdict (h : Hasher) (s : Store) (now : Instant) (id : Id) (token : String) :
    Except ServiceFailure (Session × User) :=
  match s.liveSession? id with
  | none => .error (.rejected .userSessionNotFound)
  | some x =>
    if h.compare x.tokenHash token = false then .error (.rejected .authorizationWrong)
    else if x.isExpired now = true then .error (.rejected .authorizationExpired)
    else
      match s.liveUser? x.userId with
      | some row => .ok (x, row.refreshPasswordSet)
      | none => .error (.rejected .userNotFound)

variable {h : Hasher} {o : Surroundings} {s : Store} {authorization : String}

/-- **A verification by itself** comes back with the verdict, or with what is wrong with the credential;
    it changes nothing. -/
theorem runOn_verify (r : Request) :
    (verify h r authorization).runOn o s
      = (match readAuthorization authorization with
        | .error rejection => .error (.rejected rejection)
        | .ok (id, token) => verdict h s (o .clock) id token, s) := by
  rw [verify, Service.runOn_bind, Service.runOn_checked]
  cases readAuthorization authorization with
  | error rejection => rfl
  | ok parts =>
    obtain ⟨id, token⟩ := parts
    show _ = (verdict h s (o .clock) id token, s)
    unfold verdict
    show (get id >>= _ : Service (Session × User)).runOn o s = _
    rw [Service.runOn_bind, get, Service.runOn_bind, Service.runOn_sessions]
    show Service.goOn o _ ((Service.orReject _ (s.liveSession? id)).runOn o s) = _
    rw [Service.runOn_orReject]
    cases s.liveSession? id with
    | none => rfl
    | some x =>
      -- the token is compared before the clock is read
      rw [Option.elim, Service.goOn_ok]
      cases htoken : h.compare x.tokenHash token with
      | false =>
        simp only [Session.hasToken, htoken]
        rfl
      | true =>
        simp only [Session.hasToken, htoken, Bool.not_true, Bool.false_eq_true, if_false]
        rw [Service.runOn_bind, Service.runOn_clock, Service.goOn_ok]
        by_cases hexpired : x.isExpired (o .clock) = true
        · simp only [hexpired, if_true]
          rfl
        · -- only the user can still be missing
          simp only [if_neg hexpired]
          rw [Service.runOn_bind, Service.runOn_users]
          show Service.goOn o _ (.ok ((s.liveUser? x.userId).map User.refreshPasswordSet), s) = _
          cases s.liveUser? x.userId with
          | none => rfl
          | some row => rfl

/-- **What is accepted.** -/
theorem verdict_eq_ok {now : Instant} {id : Id} {token : String} {x : Session} {u : User} :
    verdict h s now id token = .ok (x, u) ↔
      s.liveSession? id = some x ∧ h.compare x.tokenHash token = true ∧ x.isExpired now = false ∧
      ∃ row, s.liveUser? x.userId = some row ∧ u = row.refreshPasswordSet := by
  unfold verdict
  cases s.liveSession? id with
  | none => simp
  | some y =>
    simp only [Option.some.injEq]
    constructor
    · intro hok
      split at hok
      · cases hok
      · next htoken =>
        split at hok
        · cases hok
        · next hexpired =>
          cases huser : s.liveUser? y.userId with
          | none =>
            rw [huser] at hok
            cases hok
          | some row =>
            rw [huser] at hok
            cases hok
            exact ⟨rfl, by simpa using htoken, by simpa using hexpired, row, huser, rfl⟩
    · rintro ⟨rfl, htoken, hexpired, row, huser, rfl⟩
      rw [if_neg (by simp [htoken]), if_neg (by simp [hexpired]), huser]

end Turnstile.Sessions
