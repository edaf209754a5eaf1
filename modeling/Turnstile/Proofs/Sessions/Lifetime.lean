import Turnstile.Proofs.Accounts.SignUp
import Turnstile.Proofs.Credential.StoredHash
import Turnstile.Proofs.Expiry
import Turnstile.Proofs.Service.Faithful
import Turnstile.Proofs.Sessions.SignIn
import Turnstile.Proofs.Sessions.Verify

namespace Turnstile

open Credential (Hasher authorizationText idLimit)

/-!
# How long a credential is accepted

The life of a session from the sign-in that issued it, among any other operations.

* `row_of_issued` and `owner_of_issued`: what becomes of the rows of the session and of its user in the rest
  of a run.
* `Ender` lists the operations that may end a session; `ender_of_endsSession` and `ender_of_endsUser` find
  one of them behind each end.
* `credential_lifetime`: what a caller got from a sign-in is accepted exactly while its fourteen days have
  not passed and neither the session nor its user has been ended.
-/

variable {h : Hasher} {T : Trace Store} {c : Crowd Store (Request × Job) (Except ServiceFailure Value)}
  {i j : Nat} {x : Session} {y : Exchange Store}

/-! ### The rows -/

/-- **The row of an issued session**: it is still there, the same but for its mark, and it is live as long as
    nothing has ended it. -/
theorem row_of_issued (run : (service h).Run .nobody T c) {y : Session} {before after : Store}
    (inserted : (i, ⟨.sessions (.create y), .ok x, before, after⟩) ∈ T) (live : y.isLive = true) :
    0 < x.id ∧ x = before.newSession y ∧
      ∃ row ∈ c.shared.sessions, row = { Store.keptSession x with deletedAt := row.deletedAt } ∧
        (row.isLive = true ↔ ∀ j z, (j, z) ∈ T → ¬ Store.EndsSession x.id z) := by
  -- up to the insertion, and from there on
  obtain ⟨T₁, T₂, b, job, next, rfl, run₁, task, now, answers, run₂⟩ := run.split inserted
  have hnow : before = b.shared := now
  have hbefore : before.Keyed := hnow ▸ keyed_of_run run₁
  obtain ⟨hx, hafter⟩ := Store.create_session_ok answers.callSessions_of_ok
  have hid : (before.lastSession : Int) + 1 = x.id := by rw [hx]; rfl
  have hmem : Store.keptSession x ∈ after.sessions := by
    rw [hafter]
    exact List.mem_append_right _ List.mem_cons_self
  obtain ⟨row, hrow, hsame, hlive⟩ := Store.session_of_run run₂ (answers.keyed hbefore) hmem
  have hpos : (0 : Int) < x.id := by omega
  refine ⟨hpos, hx, row, hrow, hsame, ?_⟩
  have hkept : (Store.keptSession x).isLive = true := by rw [hx]; exact live
  have hfirst : ∀ j z, (j, z) ∈ T₁ → ¬ Store.EndsSession x.id z := by
    -- the key has not been handed out yet
    refine Store.not_endsSession_of_unhanded run₁ ?_
    rw [← hnow, ← hid]
    exact Int.lt_succ _
  have hself : ¬ Store.EndsSession x.id ⟨.sessions (.create y), .ok x, before, after⟩ := by
    intro hends
    obtain ⟨z, hz, -⟩ := Store.effect_of_endsSession answers hbefore hends
    cases hz
  rw [hlive, and_iff_right hkept]
  constructor
  · intro hrest j z hz
    rcases List.mem_append.1 hz with hz | hz
    · exact hfirst j z hz
    · rcases List.mem_cons.1 hz with hz | hz
      · cases hz
        exact hself
      · exact hrest j z hz
  · exact fun hall j z hz => hall j z (List.mem_append_right _ (List.mem_cons_of_mem _ hz))

/-- **The user of an issued session**: the row is still there, and it is live as long as nothing has ended
    it. -/
theorem owner_of_issued (run : (service h).Run .nobody T c) {email : String} {u : User}
    {before after : Store}
    (found : (i, ⟨.users (.getByEmail email), .ok (some u), before, after⟩) ∈ T) :
    ∃ row ∈ c.shared.users, row.id = u.id ∧
      (row.isLive = true ↔ ∀ j z, (j, z) ∈ T → ¬ Store.EndsUser u.id z) := by
  have answers := run.answers_of_mem found
  obtain ⟨T₁, T₂, b, rfl, run₁, hshared, run₂⟩ := run.cut found
  have hlive : (b.shared.liveUser? u.id).isSome = true := by
    rw [hshared]
    exact Store.getByEmail_ok answers.callUsers_of_ok
  have hhanded := (keyed_of_run run₁).handed_of_live hlive
  have hthrough := Store.liveUser_of_run run₂ hhanded.2
  have hfirst : ∀ j z, (j, z) ∈ T₁ → ¬ Store.EndsUser u.id z := by
    -- who has been ended is not found any more
    intro j z hz hends
    obtain ⟨T₁₁, T₁₂, b₁, rfl, run₁₁, hshared₁, run₁₂⟩ := run₁.cut hz
    have hhanded₁ := (keyed_of_run run₁₁).handed_of_live (hshared₁ ▸ hends.1)
    exact ((Store.liveUser_of_run run₁₂ hhanded₁.2).1 hlive).2 j z List.mem_cons_self hends
  have hkeyed := keyed_of_run run
  obtain ⟨row, hrow, hid⟩ := hkeyed.exists_user hhanded.1 (Store.handed_of_run run₂ hhanded.2)
  refine ⟨row, hrow, hid, ?_⟩
  rw [hkeyed.isLive_iff hrow, hid, hthrough, and_iff_right hlive]
  constructor
  · intro hrest j z hz
    rcases List.mem_append.1 hz with hz | hz
    · exact hfirst j z hz
    · exact hrest j z hz
  · exact fun hall j z hz => hall j z (List.mem_append_right _ hz)

/-! ### The verification -/

/-- A candidate matches a hash exactly if it is the secret that the hash was made from. -/
def Credential.Hasher.Exact (h : Hasher) : Prop :=
  ∀ salt secret hash, h.create salt secret = .ok hash →
    ∀ candidate, h.compare hash candidate = true ↔ candidate = secret

/-- A session as a sign-in gives it: with a token in hexadecimal, the hash of it, and the expiry for an
    instant. -/
structure Ticket (h : Hasher) (x : Session) (token : String) (opened : Instant) : Prop where
  live : x.isLive = true
  carries : x.token = some token
  hex : ∀ ch ∈ token.toList, Text.isHexDigit ch = true
  hashed : ∃ salt, h.create salt token = .ok x.tokenHash
  expires : ∃ expireAt, Expiry.compute? opened = some expireAt ∧ x.expireAt = some expireAt

/-- What is left of an issued session in a store: its row, the same but for its mark, and the row of its
    user. -/
structure Remains (s : Store) (x row : Session) (user : User) : Prop where
  keyed : s.Keyed
  mem_sessions : row ∈ s.sessions
  same : row = { Store.keptSession x with deletedAt := row.deletedAt }
  mem_users : user ∈ s.users
  owner : user.id = x.userId

section Verification

variable {s : Store} {row : Session} {user : User} {token : String} {opened : Instant}

/-- A row that is live is as it was inserted. -/
theorem Remains.eq_of_isLive (remains : Remains s x row user) (live : x.isLive = true)
    (hlive : row.isLive = true) : row = Store.keptSession x := by
  have hdeleted : x.deletedAt = row.deletedAt :=
    (Option.isNone_iff_eq_none.1 live).trans (Option.isNone_iff_eq_none.1 hlive).symm
  rw [remains.same, ← hdeleted]
  rfl

/-- The verdict on a token that is presented for an issued session. -/
theorem verdict_issued (exact : h.Exact) (ticket : Ticket h x token opened)
    (remains : Remains s x row user) (hopened : opened.Ordinary) {now : Instant} (hnow : now.Ordinary)
    (presented : String) (answer : Session × User) :
    Sessions.verdict h s now x.id presented = .ok answer ↔
      presented = token ∧ now.elapsed ≤ opened.elapsed + Expiry.lifetime ∧ row.isLive = true ∧
        user.isLive = true ∧ answer = (Store.keptSession x, user.refreshPasswordSet) := by
  obtain ⟨salt, hashed⟩ := ticket.hashed
  obtain ⟨expireAt, hexpire, expires⟩ := ticket.expires
  have htoken : h.compare x.tokenHash presented = true ↔ presented = token :=
    exact salt token x.tokenHash hashed presented
  have htime : (Store.keptSession x).isExpired now = false ↔
      now.elapsed ≤ opened.elapsed + Expiry.lifetime := by
    show Expiry.isExpired x.expireAt now = false ↔ _
    rw [expires]
    exact Expiry.not_isExpired_iff hopened hnow hexpire
  have hsession (z : Session) : s.liveSession? x.id = some z ↔
      z = Store.keptSession x ∧ row.isLive = true := by
    rw [Store.liveSession?_eq_some remains.keyed.nodup_sessions]
    constructor
    · rintro ⟨hz, hid, hlive⟩
      have hrowid : row.id = x.id := by rw [remains.same]; rfl
      obtain rfl := Store.eq_of_id_eq remains.keyed.nodup_sessions hz remains.mem_sessions
        (hid.trans hrowid.symm)
      exact ⟨remains.eq_of_isLive ticket.live hlive, hlive⟩
    · rintro ⟨rfl, hlive⟩
      have hkept := remains.eq_of_isLive ticket.live hlive
      exact ⟨hkept ▸ remains.mem_sessions, rfl, hkept ▸ hlive⟩
  have huser (v : User) : s.liveUser? x.userId = some v ↔ v = user ∧ user.isLive = true := by
    rw [Store.liveUser?_eq_some remains.keyed.nodup_users]
    constructor
    · rintro ⟨hv, hid, hlive⟩
      obtain rfl := List.inj_on_of_nodup_map remains.keyed.nodup_users hv remains.mem_users
        (hid.trans remains.owner.symm)
      exact ⟨rfl, hlive⟩
    · rintro ⟨rfl, hlive⟩
      exact ⟨remains.mem_users, remains.owner, hlive⟩
  obtain ⟨z, v⟩ := answer
  rw [Sessions.verdict_eq_ok, hsession]
  constructor
  · rintro ⟨⟨rfl, hrow⟩, hcompare, hexpired, u, hu, rfl⟩
    obtain ⟨rfl, hlive⟩ := (huser u).1 hu
    exact ⟨htoken.1 hcompare, htime.1 hexpired, hrow, hlive, rfl⟩
  · rintro ⟨hpresented, hexpired, hrow, hlive, hanswer⟩
    obtain ⟨rfl, rfl⟩ := Prod.mk.inj hanswer
    exact ⟨⟨rfl, hrow⟩, htoken.2 hpresented, htime.2 hexpired, user, (huser user).2 ⟨rfl, hlive⟩, rfl⟩

/-- **What a verification says of an issued session**, in terms of what is left of it. -/
theorem verify_issued (exact : h.Exact) (ticket : Ticket h x token opened)
    (remains : Remains s x row user) (hpos : 0 < x.id) (hle : x.id ≤ idLimit) (hopened : opened.Ordinary)
    {o : Surroundings} (hnow : (o .clock).Ordinary) (r : Request) (text : String)
    (answer : Session × User) :
    ((Sessions.verify h r (authorizationText x.id text)).runOn o s).1 = .ok answer ↔
      Sessions.Spells token text ∧ (o .clock).elapsed ≤ opened.elapsed + Expiry.lifetime ∧
        row.isLive = true ∧ user.isLive = true ∧
        answer = (Store.keptSession x, user.refreshPasswordSet) := by
  have hspells := Sessions.readAuthorization_eq_ok_iff (Int.le_of_lt hpos) hle ticket.hex text
  rw [Sessions.runOn_verify]
  rw [Sessions.readAuthorization_authorizationText (Int.le_of_lt hpos) hle] at hspells ⊢
  by_cases hhyphen : '-' ∈ text.toList
  · -- a token in hexadecimal has no hyphen, so the text does not spell it
    rw [if_pos hhyphen] at hspells ⊢
    constructor
    · intro hok
      cases hok
    · rintro ⟨hread, -⟩
      cases hspells.2 hread
  · rw [if_neg hhyphen] at hspells ⊢
    rw [← hspells, Except.ok.injEq, Prod.mk.injEq, and_iff_right rfl]
    exact verdict_issued exact ticket remains hopened hnow _ answer

end Verification

/-! ### What may end it -/

/-- Whom an update is about: the user with the key of the record that it was given, or the new user that it
    has saved if that record has no key. -/
def Concerns (T : Trace Store) (j : Nat) (v : User) (userId : Id) : Prop :=
  v.id = userId ∨ v.id = 0 ∧ ∃ w u, Saved (T.own j) w u ∧ u.id = userId

/-- The operations that may end a session: a sign-out of its user that does not keep it, a new password for
    its user while another session is active, and the deletion of its user. -/
inductive Ender (T : Trace Store) (j : Nat) (x : Session) : Job → Prop where
  | signOut (keep : Option Session) (other : keep.map (·.id) ≠ some x.id) :
      Ender T j x (.signOut x.userId keep)
  | newPassword (v : User) (active : Option Session) (d : UserDraft) (about : Concerns T j v x.userId)
      (password : d.password.isSome = true) (other : active.map (·.id) ≠ some x.id) :
      Ender T j x (.update (some v) active (some d))
  | deletion (v : User) (about : v.id = x.userId) : Ender T j x (.deleteUser (some v))

/-- An update of the user with a record that is itself marked as deleted. -/
def Buries (x : Session) (job : Job) : Prop :=
  ∃ v active d, job = .update (some v) active d ∧ v.id = x.userId ∧ v.isLive = false

/-- A session that a task has listed for a user is still there, as one of that user. -/
theorem row_of_listed (run : (service h).Run .nobody T c) {past : List (Exchange Store)}
    (hpast : ∀ z ∈ past, (j, z) ∈ T) {userId : Id} {z : Session} (listed : Listed past userId z) :
    ∃ row ∈ c.shared.sessions, row.id = z.id ∧ row.userId = userId := by
  obtain ⟨now, found, before, after, hmem, hz⟩ := listed
  have hL := hpast _ hmem
  have answers := run.answers_of_mem hL
  obtain ⟨hrow, huser, -⟩ := Store.listActive_ok answers.callSessions_of_ok hz
  obtain ⟨T₁, T₂, b, rfl, run₁, hshared, run₂⟩ := run.cut hL
  rw [← hshared] at hrow
  obtain ⟨row, hmem', hsame, -⟩ := Store.session_of_run run₂ (keyed_of_run run₁) hrow
  exact ⟨row, hmem', by rw [hsame], by rw [hsame]; exact huser⟩

/-- **Behind each end of a session there is an ender**. -/
theorem ender_of_endsSession (run : (service h).Run .nobody T c) {row : Session}
    (hrow : row ∈ c.shared.sessions) (hid : row.id = x.id) (howner : row.userId = x.userId)
    (hy : (j, y) ∈ T) (ends : Store.EndsSession x.id y) :
    ∃ r job, c.job? j = some (r, job) ∧ Ender T j x job := by
  obtain ⟨_, _, _, ⟨r, job⟩, _, _, _, _, hjob⟩ := run.job_of_mem hy
  have hkeyed := keyed_of_mem run hy
  obtain ⟨z, hdelete, hzid⟩ := Store.effect_of_endsSession (run.answers_of_mem hy) hkeyed ends
  obtain ⟨before, after, rfl, hallows⟩ := allows_of_mem run hjob hy
  rw [hdelete] at hallows
  obtain ⟨userId, keep, hsigns, hlisted, hkeep⟩ := hallows
  have hpast (w : Exchange Store) (hw : w ∈ Trace.own before j) : (j, w) ∈ before ++ (j, y) :: after :=
    List.mem_append_left _ (Trace.mem_own.1 hw)
  -- the job listed the session for the user whom it signs out, so this is the session's own user
  obtain ⟨row', hrow', hid', howner'⟩ := row_of_listed run hpast hlisted
  obtain rfl := Store.eq_of_id_eq (keyed_of_run run).nodup_sessions hrow' hrow
    ((hid'.trans hzid).trans hid.symm)
  obtain rfl : userId = x.userId := howner'.symm.trans howner
  rw [hzid] at hkeep
  refine ⟨r, job, hjob, ?_⟩
  cases job with
  | signOut id keep' =>
    obtain ⟨rfl, rfl⟩ := hsigns
    exact .signOut keep' (Ne.symm hkeep)
  | deleteUser user =>
    cases user with
    | none => exact hsigns.elim
    | some v => exact .deletion v hsigns.1
  | update user active draft =>
    cases user with
    | none => exact hsigns.elim
    | some v =>
      cases draft with
      | none => exact hsigns.elim
      | some d =>
        obtain ⟨hpassword, rfl, w, saved, hw, ⟨before', after', hmem⟩, hid⟩ := hsigns
        refine .newPassword v active d ?_ hpassword (Ne.symm hkeep)
        -- saving keeps a key, unless there is none yet
        by_cases hnew : v.id = 0
        · exact .inr ⟨hnew, w, saved, ⟨before', after', Trace.mem_own.2 (hpast _ hmem)⟩, hid⟩
        · have answers := run.answers_of_mem (hpast _ hmem)
          have hsame := Store.save_user_ok answers.callUsers_of_ok (hw ▸ hnew)
          exact .inl (hw.symm.trans (hsame.symm.trans hid))
  | _ => exact hsigns.elim

/-- Behind each end of a user there is the deletion of this user, or an update that was given a record of
    this user that is marked as deleted. -/
theorem ender_of_endsUser (run : (service h).Run .nobody T c) (hy : (j, y) ∈ T)
    (ends : Store.EndsUser x.userId y) :
    ∃ r job, c.job? j = some (r, job) ∧ (Ender T j x job ∨ Buries x job ∧
      ∃ v, y.effect = .users (.save v) ∧ v.id = x.userId ∧ v.isLive = false) := by
  obtain ⟨_, _, _, ⟨r, job⟩, _, _, _, _, hjob⟩ := run.job_of_mem hy
  have hkeyed := keyed_of_mem run hy
  obtain ⟨before, after, -, hallows⟩ := allows_of_mem run hjob hy
  refine ⟨r, job, hjob, ?_⟩
  rcases Store.effect_of_endsUser (run.answers_of_mem hy) hkeyed ends with
    ⟨v, hdelete, hid⟩ | ⟨v, hsave, hid, hdead⟩
  · -- a deletion deletes the user whose record it was given
    rw [hdelete] at hallows
    obtain rfl : job = .deleteUser (some v) := hallows
    exact .inl (.deletion v hid)
  · -- an update saves its record with the key and the mark that it was given
    rw [hsave] at hallows
    obtain ⟨u, active, d, rfl, hkey, hmark⟩ := hallows
    refine .inr ⟨⟨u, active, some d, rfl, hkey.symm.trans hid, ?_⟩, v, hsave, hid, hdead⟩
    rw [User.isLive, ← hmark]
    exact hdead

/-! ### The life of a session -/

/-- What is said of a session that a task has issued, with its token and the instant at which it was opened,
    and of the row of its user. -/
structure Lifetime (h : Hasher) (T : Trace Store)
    (c : Crowd Store (Request × Job) (Except ServiceFailure Value)) (i : Nat) (x : Session)
    (token : String) (opened : Instant) (user : User) : Prop where
  /-- The session carries the token, and its expiry counts from a reading of the clock by the sign-in. -/
  issued : x.token = some token ∧ (∃ before after, (i, ⟨.clock, opened, before, after⟩) ∈ T) ∧
    x.expireAt = Expiry.compute? opened
  /-- The row is the one of the user that the session belongs to. -/
  owner : user ∈ c.shared.users ∧ user.id = x.userId
  /-- A text that is presented for the session is accepted exactly if it is the token, but for blanks
      behind it, no more than the lifetime has passed, and neither the session nor its user has been
      deleted. What is given is the session without its token, and its user. -/
  accepted : ∀ (r : Request) (o : Surroundings) (text : String) (answer : Session × User),
    opened.Ordinary → (o .clock).Ordinary →
    (((Sessions.verify h r (authorizationText x.id text)).runOn o c.shared).1 = .ok answer ↔
      Sessions.Spells token text ∧ (o .clock).elapsed ≤ opened.elapsed + Expiry.lifetime ∧
      (∀ j y, (j, y) ∈ T → ¬ Store.EndsSession x.id y) ∧ user.isLive = true ∧
      answer = (Store.keptSession x, user.refreshPasswordSet))
  /-- The user has been deleted only if an operation has ended it. -/
  kept : user.isLive = true ↔ ∀ j y, (j, y) ∈ T → ¬ Store.EndsUser x.userId y
  /-- Only enders end the session; and only they end its user, unless an update is given a record of this
      user that is marked as deleted. -/
  enders : ∀ j y, (j, y) ∈ T → Store.EndsSession x.id y ∨ Store.EndsUser x.userId y →
    ∃ r job, c.job? j = some (r, job) ∧
      (Ender T j x job ∨ Store.EndsUser x.userId y ∧ Buries x job)
  /-- Where callers are faithful, enders alone end the session and its user. -/
  faithful : FaithfulRun h T c → ∀ j y, (j, y) ∈ T →
    Store.EndsSession x.id y ∨ Store.EndsUser x.userId y →
    ∃ r job, c.job? j = some (r, job) ∧ Ender T j x job
  /-- A rejected operation changes nothing. -/
  rejected : ∀ j r job rejection y, c.Finished j (r, job) (.error (.rejected rejection)) →
    (j, y) ∈ T → y.after = y.before

/-- **The lifetime of an issued credential.** A key of a session is one of the 64-bit integers of its column,
    so that it can be read back from the text of the credential. -/
theorem credential_lifetime (exact : h.Exact) (run : (service h).Run .nobody T c) {r : Request}
    {signIn : Option SignIn} (hi : c.Finished i (r, .signIn signIn) (.ok (.session x)))
    (hle : x.id ≤ idLimit) : ∃ token opened user, Lifetime h T c i x token opened user := by
  obtain ⟨email, u, opened, expireAt, salt, token, y, ⟨b₁, a₁, found⟩, ⟨b₂, a₂, clock⟩, ⟨b₃, a₃, inserted⟩,
    huser, live, hexpire, expires, htoken, hex, hashed⟩ := Sessions.issued_of_finished run hi
  rw [Trace.mem_own] at found clock inserted
  obtain ⟨hpos, hx, row, hrow, hsame, hlive⟩ := row_of_issued run inserted live
  obtain ⟨user, huserRow, howner, hkept⟩ := owner_of_issued run found
  have hxUser : x.userId = u.id := by rw [hx]; exact huser
  have ticket : Ticket h x token opened := by
    rw [hx]
    exact ⟨live, htoken, hex, ⟨salt, hashed⟩, expireAt, hexpire, expires⟩
  have remains : Remains c.shared x row user :=
    ⟨keyed_of_run run, hrow, hsame, huserRow, howner.trans hxUser.symm⟩
  have hsessionEnder (j : Nat) (y : Exchange Store) (hy : (j, y) ∈ T)
      (hends : Store.EndsSession x.id y) : ∃ r job, c.job? j = some (r, job) ∧ Ender T j x job := by
    have hid : row.id = x.id := by rw [hsame]; rfl
    have howner : row.userId = x.userId := by rw [hsame]; rfl
    exact ender_of_endsSession run hrow hid howner hy hends
  exact ⟨token, opened, user, {
    issued := by
      obtain ⟨t, ht, hxt⟩ := ticket.expires
      exact ⟨ticket.carries, ⟨b₂, a₂, clock⟩, hxt.trans ht.symm⟩
    owner := ⟨huserRow, remains.owner⟩
    accepted := by
      intro r o text answer hopened hnow
      rw [verify_issued exact ticket remains hpos hle hopened hnow, hlive]
    kept := by
      rw [hxUser]
      exact hkept
    enders := by
      rintro j y hy (hends | hends)
      · obtain ⟨r, job, hjob, hender⟩ := hsessionEnder j y hy hends
        exact ⟨r, job, hjob, .inl hender⟩
      · obtain ⟨r, job, hjob, hender⟩ := ender_of_endsUser run hy hends
        exact ⟨r, job, hjob, hender.imp_right fun hburies => ⟨hends, hburies.1⟩⟩
    faithful := by
      rintro hfaithful j y hy (hends | hends)
      · exact hsessionEnder j y hy hends
      · obtain ⟨r, job, hjob, hender | ⟨-, v, hsave, hid, hdead⟩⟩ := ender_of_endsUser run hy hends
        · exact ⟨r, job, hjob, hender⟩
        · exact absurd (hid ▸ hends) (hfaithful.not_ended_by_save hy hsave hdead)
    rejected := fun j r job rejection y hj hy => same_of_rejected run hj hy }⟩

/-! ### A sign-in -/

/-- A hasher whose hashes are the secrets themselves. -/
def plainHasher : Hasher := ⟨fun _ secret => .ok secret, fun hash candidate => hash == candidate⟩

theorem plainHasher_exact : plainHasher.Exact := by
  intro salt secret hash hcreate candidate
  obtain rfl : secret = hash := Except.ok.inj hcreate
  show (secret == candidate) = true ↔ candidate = secret
  rw [beq_iff_eq, eq_comm]

theorem plainHasher_reliable : plainHasher.Reliable where
  creates := fun _ secret _ _ => ⟨secret, rfl⟩
  matching := by
    intro salt secret hash hcreate
    exact (plainHasher_exact salt secret hash hcreate secret).2 rfl

/-- A sign-in with the address of `Accounts.addressDraft`. -/
def addressSignIn : SignIn where
  email := some "ann@example.com"
  password := none
  purpose := "SESSION_CREATE"
  clientIp := "::1"

/-- The store behind a sign-up with this address. -/
def addressStore : Store :=
  ((Accounts.enter plainHasher (.new "r" .epoch) ⟨some "ann@example.com", none, none, none⟩).runOn
    (.calm .epoch) .empty).2

/-- What the sign-up does once its draft is checked. -/
theorem program_addressSignUp :
    (service plainHasher).program (.new "r" .epoch, .signUp (some Accounts.addressDraft))
      = (do return Value.user (← Accounts.enter plainHasher (.new "r" .epoch)
          ⟨some "ann@example.com", none, none, none⟩) : Service Value).run := by
  show (Accounts.create plainHasher (.new "r" .epoch) (some Accounts.addressDraft) >>= _ :
    Service Value).run = _
  rw [Accounts.create_of_check Accounts.check_addressDraft]

/-- The sign-up leads to this store. -/
theorem run_addressSignUp : ∃ T value, (service plainHasher).Run .nobody T
    ⟨addressStore, [⟨(.new "r" .epoch, .signUp (some Accounts.addressDraft)), .done value⟩]⟩ := by
  have opened : (service plainHasher).Run .nobody [] .nobody := .start
  have launched := opened.launch (.new "r" .epoch, .signUp (some Accounts.addressDraft))
  rw [program_addressSignUp] at launched
  obtain ⟨T, signedUp, -⟩ := launched.undisturbed (i := 0) (.calm .epoch) rfl
  exact ⟨_, _, signedUp⟩

/-- The sign-in opens the first session. It is running, and is the only one that there is. -/
theorem runOn_addressSignIn_running :
    ∃ (x : Session) (s : Store), (Sessions.create plainHasher (.new "r" .epoch) (some addressSignIn)).runOn
      (.calm .epoch) addressStore = (.ok x, s) ∧ x.id = 1 ∧ s.sessions = [Store.keptSession x] ∧
        Store.runsBeyond 1 .epoch x = true := by
  have hkey : Sessions.addressKey addressSignIn = some "ann@example.com" := by decide +kernel
  have hpurpose : Sessions.issuable "SESSION_CREATE" = .ok .sessionCreate := by decide +kernel
  unfold Sessions.create
  show ∃ x s, (Service.checked (Sessions.issuable "SESSION_CREATE") >>= _ : Service Session).runOn _ _ =
    (.ok x, s) ∧ x.id = 1 ∧ s.sessions = [Store.keptSession x] ∧ Store.runsBeyond 1 .epoch x = true
  rw [hpurpose]
  show ∃ x s, (Sessions.findUser addressSignIn >>= _ : Service Session).runOn _ _ = (.ok x, s) ∧ x.id = 1 ∧
    s.sessions = [Store.keptSession x] ∧ Store.runsBeyond 1 .epoch x = true
  rw [Sessions.findUser, hkey]
  exact ⟨_, _, rfl, rfl, rfl, rfl⟩

/-- The sign-in opens the first session. -/
theorem runOn_addressSignIn :
    ∃ (x : Session) (s : Store), (Sessions.create plainHasher (.new "r" .epoch) (some addressSignIn)).runOn
      (.calm .epoch) addressStore = (.ok x, s) ∧ x.id = 1 := by
  obtain ⟨x, s, hx, hid, -⟩ := runOn_addressSignIn_running
  exact ⟨x, s, hx, hid⟩

/-- A user signs up and then in. -/
theorem credential_lifetime_signedIn :
    ∃ T c, ∃ x : Session, (service plainHasher).Run .nobody T c ∧ plainHasher.Exact ∧
      c.Finished 1 (.new "r" .epoch, .signIn (some addressSignIn)) (.ok (.session x)) ∧ x.id ≤ idLimit ∧
      ∃ token opened user, Lifetime plainHasher T c 1 x token opened user := by
  have opened : (service plainHasher).Run .nobody [] .nobody := .start
  have launched := opened.launch (.new "r" .epoch, .signUp (some Accounts.addressDraft))
  rw [program_addressSignUp] at launched
  obtain ⟨T₀, signedUp, -⟩ := launched.undisturbed (i := 0) (.calm .epoch) rfl
  have relaunched := signedUp.launch (.new "r" .epoch, .signIn (some addressSignIn))
  obtain ⟨T₁, signedIn, -⟩ := relaunched.undisturbed (i := 1) (.calm .epoch) rfl
  obtain ⟨x, s, hx, hid⟩ := runOn_addressSignIn
  have hdone : ((service plainHasher).program (.new "r" .epoch, .signIn (some addressSignIn))).runOn
      (.calm .epoch) addressStore = (.ok (.session x), s) := by
    show (Sessions.create _ _ _ >>= _ : Service Value).runOn _ _ = _
    rw [Service.runOn_bind, hx]
    rfl
  have hle : x.id ≤ idLimit := by
    rw [hid]
    decide
  have hfinished := congrArg (fun result => some (Task.mk
    (Request.new "r" .epoch, Job.signIn (some addressSignIn)) (.done result.1))) hdone
  exact ⟨_, _, x, signedIn, plainHasher_exact, hfinished, hle,
    credential_lifetime plainHasher_exact signedIn hfinished hle⟩

end Turnstile
