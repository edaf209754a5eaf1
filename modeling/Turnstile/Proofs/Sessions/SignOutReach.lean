import Turnstile.Proofs.Sessions.SignOut
import Turnstile.Proofs.Sessions.Verify

namespace Turnstile

open Credential (Hasher)

/-!
# How far a sign-out reaches

* `Reached` says which rows a sign-out is to mark as deleted, and `SignsOut` that it has marked these and
  nothing else.
* `signOut_reach`: both ways of signing a user out do just this, and give the same store. Which of the
  user's credentials are accepted afterwards follows; where expiry is concerned, "not running" and
  "expired" leave a gap at the exact instant and for sessions without expiry.
-/

/-- A row that signing a user out at an instant marks: a session of the user that is not deleted, has an
    expiry strictly later, and is not the one to keep. -/
def Reached (userId : Id) (keep : Option Session) (now : Instant) (x : Session) : Prop :=
  x.deletedAt = none ∧ x.userId = userId ∧ (∃ t, x.expireAt = some t ∧ now < t) ∧
    keep.map (·.id) ≠ some x.id

variable {userId : Id} {keep : Option Session} {now : Instant} {s : Store} {x : Session}

theorem reaches_iff : reaches userId (keep.map (·.id)) now x = true ↔ Reached userId keep now x := by
  simp only [reaches, Store.runsBeyond, Session.isLive, Session.isActive, Bool.and_eq_true,
    beq_iff_eq, bne_iff_ne, Option.isNone_iff_eq_none, Reached, Expiry.isActive]
  cases x.expireAt with
  | none => simp
  | some t =>
    simp only [decide_eq_true_eq, Option.some.injEq, exists_eq_left']
    constructor
    · rintro ⟨⟨⟨huser, hlive⟩, ht⟩, hkeep⟩
      exact ⟨hlive, huser, ht, Ne.symm hkeep⟩
    · rintro ⟨hlive, huser, ht, hkeep⟩
      exact ⟨⟨⟨huser, hlive⟩, ht⟩, Ne.symm hkeep⟩

instance : Decidable (Reached userId keep now x) := decidable_of_iff _ reaches_iff

/-- From one store to another, the sessions that are reached, so many, have been marked as deleted, and
    nothing else has changed. -/
structure SignsOut (userId : Id) (keep : Option Session) (now : Instant) (s s' : Store) (count : Nat) :
    Prop where
  users : s'.users = s.users
  rows : List.Forall₂ (fun x x' =>
    (Reached userId keep now x → ∃ t, x' = { x with deletedAt := some t }) ∧
    (¬ Reached userId keep now x → x' = x)) s.sessions s'.sessions
  count : count = (s.sessions.filter fun x => Reached userId keep now x).length

/-- Marking the rows that are reached is signing out. -/
theorem signsOut_signedOut (userId : Id) (keep : Option Session) (now : Instant) (s : Store) :
    SignsOut userId keep now s (s.signedOut (reaches userId (keep.map (·.id)) now))
      (s.sessions.countP (reaches userId (keep.map (·.id)) now)) where
  users := rfl
  rows := by
    refine (Store.markEach_forall₂ (reaches userId (keep.map (·.id)) now) s.stamps s.sessions).imp ?_
    rintro x x' ⟨hpos, hneg⟩
    refine ⟨fun hx => hpos (reaches_iff.2 hx), fun hx => hneg ?_⟩
    rw [← reaches_iff, Bool.not_eq_true] at hx
    exact hx
  count := by
    rw [List.countP_eq_length_filter]
    refine congrArg List.length (List.filter_congr fun x _ => ?_)
    rw [Bool.eq_iff_iff, decide_eq_true_eq]
    exact reaches_iff

/-! ### Who is still let in -/

/-- Instants that follow each other in a circle are the same. -/
theorem Instant.eq_of_cycle {a b c : Instant} (hab : a ≤ b) (hbc : b ≤ c) (hca : c ≤ a) :
    a = b ∧ b = c := by
  obtain ⟨sa, na⟩ := a
  obtain ⟨sb, nb⟩ := b
  obtain ⟨sc, nc⟩ := c
  simp only [Instant.le_def, Instant.lt_def, Instant.mk.injEq] at hab hbc hca ⊢
  omega

/-- What a row has become. -/
theorem exists_mem_signedOut (p : Session → Bool) (hx : x ∈ s.sessions) :
    ∃ x' ∈ (s.signedOut p).sessions, (p x = true → ∃ t, x' = { x with deletedAt := some t }) ∧
      (p x = false → x' = x) := by
  have hrows := Store.markEach_forall₂ p s.stamps s.sessions
  obtain ⟨n, hn, rfl⟩ := List.getElem_of_mem hx
  have hn' : n < (Store.markEach p s.stamps s.sessions).length := hrows.length_eq ▸ hn
  exact ⟨_, List.getElem_mem hn', hrows.get hn hn'⟩

/-- Keys differ as before. -/
theorem nodup_signedOut (p : Session → Bool) (unique : (s.sessions.map Session.id).Nodup) :
    ((s.signedOut p).sessions.map Session.id).Nodup := by
  rw [show (s.signedOut p).sessions.map Session.id = _ from Store.map_id_markEach _ _ _]
  exact unique

/-- A row that has been marked is not live. -/
theorem liveSession?_signedOut_eq_none {p : Session → Bool} (unique : (s.sessions.map Session.id).Nodup)
    (hx : x ∈ s.sessions) (reached : p x = true) : (s.signedOut p).liveSession? x.id = none := by
  have unique' := nodup_signedOut p unique
  obtain ⟨x', hx', hmarked, -⟩ := exists_mem_signedOut p hx
  obtain ⟨t, rfl⟩ := hmarked reached
  rw [Option.eq_none_iff_forall_ne_some]
  intro w hw
  obtain ⟨hmem, hid, live⟩ := (Store.liveSession?_eq_some unique').1 hw
  rw [Store.eq_of_id_eq unique' hmem hx' hid] at live
  cases live

variable {h : Hasher} {token : String} {now' : Instant}

/-- **The gap.** A live session that has not expired by a later instant was out of reach exactly if it was
    kept, has no expiry, or expires just at the instant of both. -/
theorem not_reached_iff (hdeleted : x.deletedAt = none) (hexpired : x.isExpired now' = false)
    (later : now ≤ now') :
    ¬ Reached x.userId keep now x ↔
      keep.map (·.id) = some x.id ∨ x.expireAt = none ∨ x.expireAt = some now ∧ now = now' := by
  constructor
  · intro hnot
    by_cases hkeep : keep.map (·.id) = some x.id
    · exact .inl hkeep
    · right
      cases hexpire : x.expireAt with
      | none => exact .inl rfl
      | some t =>
        right
        -- not running is `t ≤ now`, not expired is `now' ≤ t`
        have hnow : t ≤ now := fun ht => hnot ⟨hdeleted, rfl, ⟨t, hexpire, ht⟩, hkeep⟩
        have hnow' : now' ≤ t := by
          rw [Session.isExpired, hexpire] at hexpired
          exact of_decide_eq_false hexpired
        obtain ⟨rfl, rfl⟩ := Instant.eq_of_cycle hnow later hnow'
        exact ⟨rfl, rfl⟩
  · rintro hout ⟨-, -, ⟨t, ht, hlt⟩, hkeep⟩
    rcases hout with hkept | hnone | ⟨hsame, -⟩
    · exact hkeep hkept
    · rw [hnone] at ht
      cases ht
    · rw [hsame] at ht
      cases ht
      exact Instant.lt_irrefl _ hlt

/-- A row is found behind a sign-out as it was before exactly if it was live and out of reach. -/
theorem liveSession?_signedOut (unique : (s.sessions.map Session.id).Nodup) (hx : x ∈ s.sessions) :
    (s.signedOut (reaches userId (keep.map (·.id)) now)).liveSession? x.id = some x ↔
      x.deletedAt = none ∧ ¬ Reached userId keep now x := by
  have unique' := nodup_signedOut (reaches userId (keep.map (·.id)) now) unique
  constructor
  · intro hfound
    obtain ⟨-, -, hlive⟩ := (Store.liveSession?_eq_some unique').1 hfound
    refine ⟨Option.isNone_iff_eq_none.1 hlive, fun hreached => ?_⟩
    rw [liveSession?_signedOut_eq_none unique hx (reaches_iff.2 hreached)] at hfound
    cases hfound
  · rintro ⟨hdeleted, hnot⟩
    obtain ⟨x', hx', -, hneg⟩ := exists_mem_signedOut (reaches userId (keep.map (·.id)) now) hx
    rw [← reaches_iff, Bool.not_eq_true] at hnot
    obtain rfl := hneg hnot
    exact (Store.liveSession?_eq_some unique').2 ⟨hx', rfl, Option.isNone_iff_eq_none.2 hdeleted⟩

/-- **Who is still let in.** After a sign-out, the credential of one of the user's sessions is accepted
    exactly if the session had not been deleted, has not expired, and was out of reach: kept, without
    expiry, or expiring just at the instant of both. -/
theorem verdict_signedOut (unique : (s.sessions.map Session.id).Nodup) (hx : x ∈ s.sessions)
    (hright : h.compare x.tokenHash token = true) (howner : (s.liveUser? x.userId).isSome = true)
    (later : now ≤ now') :
    (∃ u, Sessions.verdict h (s.signedOut (reaches x.userId (keep.map (·.id)) now)) now' x.id token
        = .ok (x, u)) ↔
      x.deletedAt = none ∧ x.isExpired now' = false ∧
      (keep.map (·.id) = some x.id ∨ x.expireAt = none ∨ x.expireAt = some now ∧ now = now') := by
  constructor
  · rintro ⟨u, hok⟩
    obtain ⟨hlive, -, hexpired, -⟩ := Sessions.verdict_eq_ok.1 hok
    obtain ⟨hdeleted, hnot⟩ := (liveSession?_signedOut unique hx).1 hlive
    exact ⟨hdeleted, hexpired, (not_reached_iff hdeleted hexpired later).1 hnot⟩
  · rintro ⟨hdeleted, hexpired, hout⟩
    have hnot := (not_reached_iff hdeleted hexpired later).2 hout
    have hlive := (liveSession?_signedOut unique hx).2 ⟨hdeleted, hnot⟩
    obtain ⟨row, hrow⟩ := Option.isSome_iff_exists.1 howner
    exact ⟨row.refreshPasswordSet, Sessions.verdict_eq_ok.2 ⟨hlive, hright, hexpired, row, hrow, rfl⟩⟩

/-! ### Both ways of signing out -/

/-- **The exact reach of a sign-out.** In a store where sessions have different keys, deleting the
    sessions of a user marks just those that are reached, and reports their number. An update with a new
    password leaves the sessions alone up to the point where the user is saved, and from there does the
    same. -/
theorem signOut_reach (h : Hasher) (r : Request) (o : Surroundings) (s : Store)
    (unique : (s.sessions.map Session.id).Nodup) (userId : Id) (huser : userId ≠ 0)
    (keep : Option Session) :
    ∃ s' count, (Sessions.delete r userId keep).runOn o s = (.ok count, s') ∧
      SignsOut userId keep (o .clock) s s' count ∧
      (∀ u d fields s₀ saved, Accounts.check d = .ok fields → fields.password.isSome = true →
        (Accounts.change h fields u).runOn o s₀ = (.ok saved, s) → saved.id = userId →
        s.sessions = s₀.sessions ∧
        (Accounts.update h r (some u) keep (some d)).runOn o s₀ = (.ok saved, s')) ∧
      ∀ x ∈ s.sessions, x.userId = userId → (s.liveUser? userId).isSome = true →
        ∀ authorization token, Sessions.readAuthorization authorization = .ok (x.id, token) →
        h.compare x.tokenHash token = true → ∀ o' : Surroundings, o .clock ≤ o' .clock →
        ((∃ u, ((Sessions.verify h r authorization).runOn o' s').1 = .ok (x, u)) ↔
          x.deletedAt = none ∧ x.isExpired (o' .clock) = false ∧
          (keep.map (·.id) = some x.id ∨ x.expireAt = none ∨
            x.expireAt = some (o .clock) ∧ o .clock = o' .clock)) := by
  refine ⟨_, _, Sessions.runOn_delete r huser keep s unique, signsOut_signedOut _ _ _ _, ?_, ?_⟩
  · rintro u d fields s₀ saved hfields hpassword hchange rfl
    have hsessions := Accounts.leavesSessions_change (o := o) h fields u s₀
    rw [hchange] at hsessions
    refine ⟨hsessions, ?_⟩
    rw [Accounts.runOn_update h r u keep hfields, hchange, Service.goOn_ok,
      Accounts.runOn_settle r hpassword keep saved s unique]
  · rintro x hx rfl howner authorization token hread hright o' later
    rw [Sessions.runOn_verify, hread]
    exact verdict_signedOut unique hx hright howner later

/-- A store with one user, a running session of that user, one without expiry, and one to keep. -/
def threeSessions : Store where
  users := [{ User.new with id := 1 }]
  sessions := [{ Session.new 1 "::1" .sessionCreate with id := 1, expireAt := some ⟨1, 0⟩ },
    { Session.new 1 "::1" .sessionCreate with id := 2 },
    { Session.new 1 "::1" .sessionCreate with id := 3, expireAt := some ⟨1, 0⟩ }]
  lastUser := 1
  lastSession := 3
  stamps := 4

theorem signOut_reach_threeSessions : ∃ s',
    (Sessions.delete (.new "r" .epoch) 1 (threeSessions.liveSession? 3)).runOn (.calm .epoch)
      threeSessions = (.ok 1, s') ∧ s'.users = threeSessions.users := by
  obtain ⟨s', count, hrun, hsigns, -, -⟩ := signOut_reach .argon2 (.new "r" .epoch) (.calm .epoch)
    threeSessions (by decide) 1 (by decide) (threeSessions.liveSession? 3)
  have hcount : count = 1 := hsigns.count.trans (by decide)
  exact ⟨s', hcount ▸ hrun, hsigns.users⟩

end Turnstile
