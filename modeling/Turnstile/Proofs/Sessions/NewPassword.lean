import Turnstile.Proofs.Accounts.PasswordChange
import Turnstile.Proofs.Service.WellFormed
import Turnstile.Proofs.Store.Secured

namespace Turnstile

open Credential (Hasher)

/-!
# How far a new password reaches

A new password is to lock out whoever knows only the old one. The update saves it first and then ends the
sessions that are running; a sign-in reads the old hash in one step and opens its session in a later one.

* `ChangesPassword` is such an update, and `OpensWithout` a sign-in that has opened a session without
  knowing the new password, both in a run with whatever else goes on.
* `Turnover` parts the run at the save and at the listing of the running sessions, and `Straddles` says of a
  sign-in that it has looked its user up in front of the one and has opened its session behind the other.
* `newPassword_reach`: the sessions that are left in the end are the one to keep and those whose sign-in
  straddles; these the update does not end.
* `CutsOff` is what one might expect instead, and `not_cutsOff` refutes it.
-/

/-! ### Updates and sign-ins -/

section Setting

variable (b c : Crowd Store (Request × Job) (Except ServiceFailure Value)) (T : Trace Store)

/-- In the second part of a run, an update gives a user a new password and succeeds. No other update of
    this user takes part. -/
structure ChangesPassword (i : Nat) (u : User) (active : Option Session) (password : String) : Prop where
  begun : b.tasks.length ≤ i
  key : u.id ≠ 0
  succeeds : ∃ r d fields saved, c.Finished i (r, .update (some u) active (some d)) (.ok (.user saved)) ∧
    Accounts.check d = .ok fields ∧ fields.password = some password
  alone : ∀ k y r v active' d, (k, y) ∈ T → c.job? k = some (r, .update (some v) active' d) →
    v.id = u.id → k = i

/-- A sign-in has opened an ordinary session for a user, and has presented another password than this one, or
    none at all. -/
structure OpensWithout (k : Nat) (s : SignIn) (x : Session) (u : User) (password : String) : Prop where
  opened : ∃ r, c.Finished k (r, .signIn (some s)) (.ok (.session x))
  ordinary : Sessions.issuable s.purpose = .ok .sessionCreate
  owner : x.userId = u.id
  other : s.password ≠ some password

/-- All readings of the clock are over by an instant. -/
def ReadBefore (now : Instant) : Prop :=
  ∀ k t before after, (k, ⟨.clock, t, before, after⟩) ∈ T → t ≤ now

end Setting

/-! ### The turn from the old password to the new one -/

/-- The save of the new password and the listing of the running sessions, in the trace around them. -/
structure Turnover where
  record : User
  saved : User
  hash : String
  now : Instant
  found : List Session
  beforeSave : Store
  afterSave : Store
  beforeListing : Store
  afterListing : Store
  early : Trace Store
  between : Trace Store
  late : Trace Store

namespace Turnover

variable (τ : Turnover)

def save : Exchange Store := ⟨.users (.save τ.record), .ok τ.saved, τ.beforeSave, τ.afterSave⟩

def listing : Exchange Store :=
  ⟨.sessions (.listActive τ.saved.id τ.now), .ok τ.found, τ.beforeListing, τ.afterListing⟩

/-- These are the points of an update in a trace: it saves the hash of the password, then reads the clock,
    then lists the running sessions, and deletes each of them but the one to keep. It saves only once. -/
structure In (h : Hasher) (T : Trace Store) (i : Nat) (u : User) (active : Option Session)
    (password : String) : Prop where
  parts : T = τ.early ++ (i, τ.save) :: (τ.between ++ (i, τ.listing) :: τ.late)
  record_id : τ.record.id = u.id
  saved_id : τ.saved.id = u.id
  hashed : ∃ salt, h.create salt password = .ok τ.hash
  secured : τ.record.passwordHash = some τ.hash
  read : ∃ before after, (i, ⟨.clock, τ.now, before, after⟩) ∈ τ.between
  quiet : ∀ y, (i, y) ∈ τ.between ++ (i, τ.listing) :: τ.late → ∀ v, y.effect ≠ .users (.save v)
  deleted : Accounts.DeletedEach (active.map (·.id)) τ.found (τ.late.own i)

end Turnover

/-- The sign-in has looked the user up early, and has opened the session late. -/
structure Straddles (early late : Trace Store) (k : Nat) (x : Session) : Prop where
  looked : ∃ email v before after, v.id = x.userId ∧
    (k, ⟨.users (.getByEmail email), .ok (some v), before, after⟩) ∈ early
  opened : ∃ y before after, (k, ⟨.sessions (.create y), .ok x, before, after⟩) ∈ late

section Reach

variable {h : Hasher} {b c : Crowd Store (Request × Job) (Except ServiceFailure Value)} {T₁ T : Trace Store}
  {i k : Nat} {u : User} {active : Option Session} {password : String} {s : SignIn} {x : Session}
  {τ : Turnover}

/-- **An update with a new password that succeeds turns the password over.** -/
theorem ChangesPassword.exists_turnover (changes : ChangesPassword b c T i u active password)
    (run₁ : (service h).Run .nobody T₁ b) (run₂ : (service h).Run b T c) :
    ∃ τ : Turnover, τ.In h T i u active password := by
  obtain ⟨r, d, fields, saved, hfinished, hfields, hpassword⟩ := changes.succeeds
  have run := run₁.trans run₂
  have course := Accounts.changed_of_finished run hfields (by rw [hpassword]; rfl) hfinished
  rw [run₁.own_append_of_le changes.begun] at course
  generalize hown : T.own i = own at course
  obtain ⟨w, t, found, pre, post, b₁, a₁, b₂, a₂, b₃, a₃, hdeleted, hquiet⟩ := course
  -- the trace is parted at the save, and what follows at the listing
  obtain ⟨P, B, hT, -, hB⟩ := Trace.part_own hown
  have hlisting : B.own i = [⟨.clock, t, b₂, a₂⟩] ++
      ⟨.sessions (.listActive saved.id t), .ok found, b₃, a₃⟩ :: post := hB
  obtain ⟨Q, R, rfl, hQ, hR⟩ := Trace.part_own hlisting
  have hsave : (i, ⟨.users (.save w), .ok saved, b₁, a₁⟩) ∈ T := by
    rw [hT]
    exact List.mem_append_right _ List.mem_cons_self
  have hjob := Crowd.job?_of_task hfinished
  obtain ⟨u', d', fields', hu, hd, hfields', hasks⟩ :=
    Accounts.Update.asks_of_mem run hjob (List.mem_append_right T₁ hsave)
  cases hu
  cases hd
  cases hfields'.symm.trans hfields
  have saves : Accounts.Update.Saves h fields u w := hasks
  obtain ⟨salt, hash, hcreate, hhash⟩ := saves.hashed hpassword
  have hsaved : saved.id = w.id :=
    Store.save_user_ok (run₂.answers_of_mem hsave).callUsers_of_ok (saves.id_eq ▸ changes.key)
  have hlater : ∀ y ∈ Trace.own (Q ++ (i, ⟨.sessions (.listActive saved.id t), .ok found, b₃, a₃⟩) :: R) i,
      ∀ v, y.effect ≠ .users (.save v) := by
    rw [hB]
    intro y hy v hv
    rcases List.mem_cons.1 hy with rfl | hy
    · cases hv
    rcases List.mem_cons.1 hy with rfl | hy
    · cases hv
    · exact hquiet y hy v hv
  exact ⟨⟨w, saved, hash, t, found, b₁, a₁, b₃, a₃, P, Q, R⟩, {
    parts := hT
    record_id := saves.id_eq
    saved_id := hsaved.trans saves.id_eq
    hashed := ⟨salt, hcreate⟩
    secured := hhash
    read := ⟨b₂, a₂, Trace.mem_own.1 (hQ ▸ List.mem_cons_self)⟩
    quiet := fun y hy => hlater y (Trace.mem_own.2 hy)
    deleted := hR ▸ hdeleted }⟩

/-! ### Up to the save -/

/-- A password that passes for one that was hashed is the same. -/
theorem Sessions.password_of_checkPassword (exact : h.Exact) {v : User} {salt : Credential.Salt}
    {hash : String}
    (hashed : h.create salt password = .ok hash) (secured : v.passwordHash = some hash)
    (checked : Sessions.checkPassword h s .sessionCreate v = .ok ()) : s.password = some password := by
  unfold Sessions.checkPassword at checked
  rw [if_pos ⟨rfl, by rw [secured]; rfl⟩] at checked
  cases hpassword : s.password with
  | none =>
    rw [hpassword] at checked
    cases checked
  | some candidate =>
    rw [hpassword] at checked
    by_cases hmatches : v.hasPassword h candidate = true
    · rw [User.hasPassword, secured] at hmatches
      rw [(exact salt password hash hashed candidate).1 hmatches]
    · simp only [if_neg hmatches] at checked
      cases checked

/-- A sign-in that has succeeded has looked its user up, has checked what it was presented, and has opened
    the session. -/
theorem OpensWithout.steps (opens : OpensWithout c k s x u password) (run : (service h).Run .nobody T c) :
    ∃ email v y b₁ a₁ b₂ a₂, (k, ⟨.users (.getByEmail email), .ok (some v), b₁, a₁⟩) ∈ T ∧
      (k, ⟨.sessions (.create y), .ok x, b₂, a₂⟩) ∈ T ∧ y.isLive = true ∧ v.id = x.userId ∧
      Sessions.checkPassword h s .sessionCreate v = .ok () := by
  obtain ⟨r, hfinished⟩ := opens.opened
  obtain ⟨_, ⟨⟩, course⟩ := Sessions.course_of_finished run hfinished
  generalize hown : T.own k = own at course
  obtain ⟨purpose, email, v, draw, opened, expireAt, salt, token, hash, b₁, a₁, b, a, b', a', b₂, a₂, logged,
    hpurpose, -, checked, -, -, -⟩ := course
  cases hpurpose.symm.trans opens.ordinary
  have hlooked : (k, ⟨.users (.getByEmail email), .ok (some v), b₁, a₁⟩) ∈ T :=
    Trace.mem_own.1 (by rw [hown]; simp)
  have hopened : (k, ⟨.sessions (.create (Sessions.opening v s.clientIp .sessionCreate token hash expireAt)),
      .ok x, b₂, a₂⟩) ∈ T := Trace.mem_own.1 (by rw [hown]; simp)
  obtain ⟨-, hx, -⟩ := row_of_issued run hopened rfl
  exact ⟨email, v, _, b₁, a₁, b₂, a₂, hlooked, hopened, rfl, by rw [hx]; rfl, checked⟩

namespace Turnover.In

variable (turn : τ.In h T i u active password) (changes : ChangesPassword b c T i u active password)
  (run₁ : (service h).Run .nobody T₁ b) (run₂ : (service h).Run b T c)

omit changes run₁ run₂ in
include turn in
theorem append_parts :
    T₁ ++ T = (T₁ ++ τ.early ++ (i, τ.save) :: τ.between) ++ (i, τ.listing) :: τ.late := by
  rw [turn.parts]
  simp

include turn changes run₁ run₂

/-- **From the save on, the user has the new hash.** -/
theorem secured_of_mem {j : Nat} {y : Exchange Store}
    (hy : (j, y) ∈ τ.between ++ (i, τ.listing) :: τ.late) : y.before.Secured u.id τ.hash := by
  have run := run₁.trans run₂
  have hrest {k : Nat} {z : Exchange Store} (hz : (k, z) ∈ τ.between ++ (i, τ.listing) :: τ.late) :
      (k, z) ∈ T := by
    rw [turn.parts]
    exact List.mem_append_right _ (List.mem_cons_of_mem _ hz)
  -- up to the save, and from there on
  obtain ⟨b₁, runSave, runRest⟩ := run₂.parts (turn.parts.trans (List.append_cons _ _ _))
  obtain ⟨b₀, -, runOne⟩ := runSave.parts rfl
  obtain ⟨-, answers, hshared⟩ := runOne.shared_of_single
  have hsave : (i, τ.save) ∈ T₁ ++ T := by
    rw [turn.parts]
    exact List.mem_append_right _ (List.mem_append_right _ List.mem_cons_self)
  have keyed : τ.beforeSave.Keyed := keyed_of_mem run hsave
  have key : τ.record.id ≠ 0 := turn.record_id ▸ changes.key
  have hsaved : τ.beforeSave.callUsers (.save τ.record) = (.ok τ.saved, τ.afterSave) :=
    Store.Answers.callUsers_of_ok answers
  have secured : b₁.shared.Secured u.id τ.hash := by
    rw [hshared, ← turn.record_id]
    exact Store.secured_of_save keyed key turn.secured hsaved
  have handed : u.id ≤ b₁.shared.lastUser := by
    rw [hshared, ← turn.record_id]
    exact Store.handed_of_save keyed key hsaved
  -- and nobody saves the user again
  obtain ⟨A, B, b₂, hAB, runA, hbefore, -⟩ := runRest.cut hy
  rw [← hbefore]
  refine Store.secured_of_run runA handed (fun k z hz v hv hid => ?_) secured
  have hz : (k, z) ∈ τ.between ++ (i, τ.listing) :: τ.late := hAB ▸ List.mem_append_left _ hz
  have hmem := List.mem_append_right T₁ (hrest hz)
  obtain ⟨_, _, _, ⟨r, job⟩, _, _, _, _, hjob⟩ := run.job_of_mem hmem
  obtain ⟨_, _, -, hallows⟩ := allows_of_mem run hjob hmem
  rw [hv] at hallows
  obtain ⟨v', active', d, rfl, hkey, -⟩ := hallows
  obtain rfl := changes.alone k z r v' active' (some d) (hrest hz) hjob (hkey.symm.trans hid)
  exact turn.quiet z hz v hv

/-- **A sign-in without the new password has looked its user up before the save.** -/
theorem looked_early (exact : h.Exact) (opens : OpensWithout c k s x u password) {email : String} {v : User}
    {before after : Store}
    (looked : (k, ⟨.users (.getByEmail email), .ok (some v), before, after⟩) ∈ T₁ ++ T)
    (hv : v.id = x.userId) (checked : Sessions.checkPassword h s .sessionCreate v = .ok ()) :
    (k, ⟨.users (.getByEmail email), .ok (some v), before, after⟩) ∈ T₁ ++ τ.early := by
  have answers := (run₁.trans run₂).answers_of_mem looked
  have hparts := turn.parts
  rw [hparts, ← List.append_assoc] at looked
  rcases List.mem_append.1 looked with hearly | hlater
  · exact hearly
  rcases List.mem_cons.1 hlater with heq | hlater
  · cases heq
  · -- it would have found the new hash, and the password would be the new one
    have secured := turn.secured_of_mem changes run₁ run₂ hlater
    have hhash := secured.finds (.byEmail email before after) (hv.trans opens.owner) answers
    obtain ⟨salt, hashed⟩ := turn.hashed
    exact absurd (Sessions.password_of_checkPassword exact hashed hhash checked) opens.other

omit changes in
/-- The run up to the listing, and from there on. -/
theorem exists_listing : ∃ b₁ : Crowd Store (Request × Job) (Except ServiceFailure Value),
    (service h).Run .nobody (T₁ ++ τ.early ++ (i, τ.save) :: τ.between) b₁ ∧
      (service h).Run b₁ ((i, τ.listing) :: τ.late) c ∧ b₁.shared = τ.beforeListing ∧
      τ.found = τ.beforeListing.sessions.filter (Store.runsBeyond u.id τ.now) := by
  obtain ⟨b₁, runL, runR⟩ := (run₁.trans run₂).parts turn.append_parts
  obtain ⟨b₂, runOne, -⟩ := runR.parts (List.append_cons [] (i, τ.listing) τ.late)
  obtain ⟨hbefore, answers, -⟩ := runOne.shared_of_single
  have hlisted : τ.beforeListing.callSessions (.listActive τ.saved.id τ.now)
      = (.ok τ.found, τ.afterListing) := Store.Answers.callSessions_of_ok answers
  refine ⟨b₁, runL, runR, hbefore.symm, ?_⟩
  rw [← turn.saved_id]
  exact (Except.ok.inj (Prod.mk.inj hlisted).1).symm

omit changes in
/-- **A session that was opened before the listing** is running in the end only if it was to be kept. -/
theorem opened_late (owner : x.userId = u.id) {y : Session} {before after : Store}
    (opened : (k, ⟨.sessions (.create y), .ok x, before, after⟩) ∈ T₁ ++ T) (live : y.isLive = true)
    {now : Instant} (later : τ.now ≤ now) {z : Session} (hz : c.shared.liveSession? x.id = some z)
    (active' : z.isActive now = true) :
    active.map (·.id) = some x.id ∨ (k, ⟨.sessions (.create y), .ok x, before, after⟩) ∈ τ.late := by
  obtain ⟨b₁, runL, runR, hbefore, hfound⟩ := turn.exists_listing run₁ run₂
  rw [turn.append_parts] at opened
  rcases List.mem_append.1 opened with hearly | hlater
  swap
  · rcases List.mem_cons.1 hlater with heq | hlate
    · cases heq
    · exact .inr hlate
  left
  -- the row of the session at the listing, and what has become of it in the end
  obtain ⟨-, -, row, hrow, hsame, -⟩ := row_of_issued runL hearly live
  have keyed₁ : b₁.shared.Keyed := keyed_of_run runL
  have keyed := (keyed_of_run (run₁.trans run₂)).nodup_sessions
  obtain ⟨row', hrow', hsame', hlive⟩ := Store.session_of_run runR keyed₁ hrow
  have hid : row.id = x.id := by rw [hsame]; rfl
  have hid' : row'.id = row.id := by rw [hsame']
  obtain ⟨hmem, hzid, hzlive⟩ := (Store.liveSession?_eq_some keyed).1 hz
  obtain rfl := Store.eq_of_id_eq keyed hmem hrow' (hzid.trans (hid'.trans hid).symm)
  -- it was running at the listing
  have hrunning : Store.runsBeyond u.id τ.now row = true := by
    have howner : row.userId = u.id := by rw [hsame]; exact owner
    have hactive : row.isActive τ.now = true := by
      rw [hsame'] at active'
      exact Expiry.isActive_of_le active' later
    rw [Store.runsBeyond, howner, beq_self_eq_true, (hlive.1 hzlive).1, hactive]
    rfl
  have hlisted : row ∈ τ.found := by
    rw [hfound, ← hbefore]
    exact List.mem_filter.2 ⟨hrow, hrunning⟩
  -- so it was deleted, if it was not to be kept
  by_contra hother
  obtain ⟨w, b, a, hdelete⟩ := turn.deleted.all row hlisted fun heq => hother (by rw [← heq, hid])
  have hgone := Store.liveSession?_of_deleted runR keyed₁ hrow
    (List.mem_cons_of_mem _ (Trace.mem_own.1 hdelete)) rfl
  rw [hid, hz] at hgone
  cases hgone

/-- **The update ends neither the session to keep nor one that is opened late.** -/
theorem spares (hx : active.map (·.id) = some x.id ∨
      ∃ y before after, (k, ⟨.sessions (.create y), .ok x, before, after⟩) ∈ τ.late) {z : Exchange Store}
    (hz : (i, z) ∈ T) : ¬ Store.EndsSession x.id z := by
  intro ends
  have run := run₁.trans run₂
  have hzT := List.mem_append_right T₁ hz
  have keyed := keyed_of_mem run hzT
  obtain ⟨y, hdelete, hyid⟩ := Store.effect_of_endsSession (run.answers_of_mem hzT) keyed ends
  rcases hx with hkept | ⟨y', before, after, hlate⟩
  · -- an update does not ask for the deletion of the session to keep
    obtain ⟨r, d, _, saved, hfinished, -⟩ := changes.succeeds
    obtain ⟨_, _, -, hallows⟩ := allows_of_mem run (Crowd.job?_of_task hfinished) hzT
    rw [hdelete] at hallows
    obtain ⟨userId, keep, ⟨-, hkeep, -⟩, -, hne⟩ := hallows
    exact hne (by rw [hyid, ← hkept, hkeep])
  · -- in front of the listing the key has not been handed out, and behind it only listed sessions are
    -- deleted
    obtain ⟨b₁, runL, runR, hbefore, hfound⟩ := turn.exists_listing run₁ run₂
    have unhanded := Store.unhanded_of_inserted runR (List.mem_cons_of_mem _ hlate)
    rw [turn.append_parts] at hzT
    rcases List.mem_append.1 hzT with hzL | hzR
    · exact Store.not_endsSession_of_unhanded runL unhanded i z hzL ends
    rcases List.mem_cons.1 hzR with heq | hzR
    · cases heq
      cases hdelete
    · have hlisted := turn.deleted.only z (Trace.mem_own.2 hzR) y hdelete
      rw [hfound, ← hbefore] at hlisted
      have hhanded := (keyed_of_run runL).handed_of_mem_sessions (List.mem_filter.1 hlisted).1
      rw [hyid] at hhanded
      exact absurd unhanded (Int.not_lt.2 hhanded.2)

end Turnover.In

/-! ### What is left in the end -/

/-- **How far a new password reaches.** Of the sessions that were opened without it, those that are
    running in the end are the one to keep and those whose sign-in straddles the turn; and these the
    update does not end. -/
theorem newPassword_reach (exact : h.Exact) (run₁ : (service h).Run .nobody T₁ b)
    (run₂ : (service h).Run b T c) (changes : ChangesPassword b c T i u active password) :
    ∃ τ : Turnover, τ.In h T i u active password ∧ ∀ k s x, OpensWithout c k s x u password →
      (∀ now z, ReadBefore T now → c.shared.liveSession? x.id = some z → z.isActive now = true →
        active.map (·.id) = some x.id ∨ Straddles (T₁ ++ τ.early) τ.late k x) ∧
      (active.map (·.id) = some x.id ∨ Straddles (T₁ ++ τ.early) τ.late k x →
        ∀ y, (i, y) ∈ T → ¬ Store.EndsSession x.id y) := by
  obtain ⟨τ, turn⟩ := changes.exists_turnover run₁ run₂
  refine ⟨τ, turn, fun k s x opens => ⟨fun now z hread hz hactive => ?_, fun hx y hy => ?_⟩⟩
  · obtain ⟨email, v, y, b₁, a₁, b₂, a₂, looked, opened, live, owner, checked⟩ :=
      opens.steps (run₁.trans run₂)
    have later : τ.now ≤ now := by
      obtain ⟨b₃, a₃, hclock⟩ := turn.read
      refine hread i τ.now b₃ a₃ ?_
      rw [turn.parts]
      exact List.mem_append_right _ (List.mem_cons_of_mem _ (List.mem_append_left _ hclock))
    have looked := turn.looked_early changes run₁ run₂ exact opens looked owner checked
    refine (turn.opened_late run₁ run₂ opens.owner opened live later hz hactive).imp_right fun late => ?_
    exact ⟨⟨email, v, b₁, a₁, owner, looked⟩, y, b₂, a₂, late⟩
  · exact turn.spares changes run₁ run₂ (hx.imp_right Straddles.opened) hy

end Reach

/-! ### A sign-in that straddles -/

open Accounts (Editor)

/-- The user with the old password. -/
def knownAnn : User := { verifiedAnn with passwordHash := some "secret", passwordSet := true }

theorem liveUser?_knownAnn : passwordStore.liveUser? 1 = some knownAnn := by decide +kernel

/-- A request that gives the user a new password. -/
def renewing : Editor where
  place := 3
  request := .new "r" .epoch
  active := none
  draft := ⟨none, some "another secret", none, none⟩
  fields := ⟨none, some "another secret", none, none⟩

theorem check_renewing : Accounts.check renewing.draft = .ok renewing.fields := by
  have hpassword : Field.password "another secret" = .ok "another secret" := by decide +kernel
  show (do let password ← (Field.password "another secret").map some; _) = _
  rw [hpassword]
  rfl

/-- What is left of the sign-in with the old password once its request is read. -/
def knock : Service Session := do
  let found ← Service.users Sessions.createContext (.getByEmail "ann@example.com")
  let u ← Service.orReject .userSessionCredentialsInvalid found
  Sessions.openFor plainHasher (.new "r" .epoch) passwordSignIn .sessionCreate u

def knocking : Program (Except ServiceFailure Value) :=
  (do return Value.session (← knock) : Service Value).run

theorem program_passwordSignIn :
    (service plainHasher).program (.new "r" .epoch, .signIn (some passwordSignIn)) = knocking := by
  have hkey : Sessions.addressKey passwordSignIn = some "ann@example.com" := by decide +kernel
  have hpurpose : Sessions.issuable passwordSignIn.purpose = .ok .sessionCreate := by decide +kernel
  show (Sessions.create _ _ _ >>= _ : Service Value).run = _
  rw [Sessions.create_of_issuable (by decide) hpurpose, Sessions.findUser, hkey]
  rfl

/-- The first program gets one answer, then the second one gets four, and then both go on to their ends. -/
def straddled (o : Surroundings) (p q : Program α) (s : Store) : Program α × Program α × Store :=
  let p₁ := p.advance o 1 s
  let q₁ := q.advance o 4 p₁.2
  let p₂ := p₁.1.advance o 5 q₁.2
  let q₂ := q₁.1.advance o 5 p₂.2
  (p₂.1, q₂.1, q₂.2)

/-- The sign-in reads the old hash; the new one is saved, and nobody is found to be signed in; then the
    sign-in opens its session. -/
theorem straddled_knocking : ∃ x saved s z,
    straddled (.calm .epoch) knocking (renewing.rest plainHasher knownAnn) passwordStore
      = (.done (.ok (.session x)), .done (.ok (.user saved)), s) ∧
    x.userId = 1 ∧ s.liveSession? x.id = some z ∧ z.isActive .epoch = true :=
  ⟨_, _, _, _, rfl, rfl, rfl, rfl⟩

/-- An update with a new password meets sign-ins with the old one, and nothing else goes on until all of
    them are over; one of the sign-ins has opened a session. -/
structure Encounter (h : Hasher) (b c : Crowd Store (Request × Job) (Except ServiceFailure Value))
    (T : Trace Store) (i k : Nat) (u : User) (active : Option Session) (old new : String) (s : SignIn)
    (x : Session) : Prop where
  known : ∃ row hash, b.shared.liveUser? u.id = some row ∧ row.passwordHash = some hash ∧
    h.compare hash old = true
  changes : ChangesPassword b c T i u active new
  others : ∀ j y, (j, y) ∈ T → j = i ∨
    ∃ r s' value, c.Finished j (r, .signIn (some s')) value ∧ s'.password = some old
  begun : b.tasks.length ≤ k
  opens : OpensWithout c k s x u new
  presented : s.password = some old

/-- A run in which the sign-in straddles and its session is left. -/
theorem run_straddled : ∃ T₁ b T c x z, (service plainHasher).Run .nobody T₁ b ∧
    (service plainHasher).Run b T c ∧
    Encounter plainHasher b c T 3 2 knownAnn none "secret" "another secret" passwordSignIn x ∧
    ReadBefore T .epoch ∧
    c.shared.liveSession? x.id = some z ∧ z.isActive .epoch = true := by
  obtain ⟨T₁, v₁, v₂, secured⟩ := run_passwordStore
  have known : (service plainHasher).Run
    ⟨passwordStore, [⟨(.new "r" .epoch, .signUp (some Accounts.addressDraft)), .done v₁⟩,
      ⟨(.new "r" .epoch, .update (some verifiedAnn) none (some Accounts.securing.draft)), .done v₂⟩]⟩
    [] _ := .start
  have launched :=
    (known.launch (.new "r" .epoch, .signIn (some passwordSignIn))).launch (renewing.job knownAnn)
  obtain ⟨x, saved, s, z, hraced, howner, hz, hactive⟩ := straddled_knocking
  rw [program_passwordSignIn, Accounts.program_of_check check_renewing] at launched
  -- what the two come to is named before they run
  generalize knocking = p at launched hraced
  generalize renewing.rest plainHasher knownAnn = q at launched hraced
  obtain ⟨T₂, looked, h₂⟩ := launched.advance (.calm .epoch) 1 (i := 2) rfl
  obtain ⟨T₃, listed, h₃⟩ := looked.advance (.calm .epoch) 4 (i := 3) rfl
  obtain ⟨T₄, opened, h₄⟩ := listed.advance (.calm .epoch) 5 (i := 2) rfl
  obtain ⟨T₅, settled, h₅⟩ := opened.advance (.calm .epoch) 5 (i := 3) rfl
  obtain ⟨hp, hqs⟩ := Prod.mk.inj hraced
  obtain ⟨hq, hs⟩ := Prod.mk.inj hqs
  have hsteps (k : Nat) (y : Exchange Store) (hy : (k, y) ∈ [] ++ T₂ ++ T₃ ++ T₄ ++ T₅) :
      (k = 2 ∨ k = 3) ∧ y.Replied (.calm .epoch) := by
    rcases List.mem_append.1 hy with hy | hy
    · rcases List.mem_append.1 hy with hy | hy
      · rcases List.mem_append.1 hy with hy | hy
        · exact (h₂ _ hy).imp_left .inl
        · exact (h₃ _ hy).imp_left .inr
      · exact (h₄ _ hy).imp_left .inl
    · exact (h₅ _ hy).imp_left .inr
  have knocked := congrArg (fun p => some (Task.mk
    (Request.new "r" Instant.epoch, Job.signIn (some passwordSignIn)) p)) hp
  refine ⟨T₁, _, _, _, x, z, secured.toRun, settled, {
    known := ⟨knownAnn, "secret", liveUser?_knownAnn, rfl, rfl⟩
    changes := ⟨Nat.le_succ 2, by decide, ?_, ?_⟩
    others := ?_
    begun := Nat.le_refl 2
    opens := ⟨⟨_, knocked⟩, show Sessions.issuable "SESSION_CREATE" = _ by decide +kernel, howner, by decide⟩
    presented := rfl }, ?_, ?_, hactive⟩
  · exact ⟨_, _, renewing.fields, saved, congrArg (fun q => some (Task.mk _ q)) hq, check_renewing, rfl⟩
  · intro k y r v active' d hy hjob hid
    rcases (hsteps k y hy).1 with rfl | rfl
    · cases hjob
    · rfl
  · intro k y hy
    rcases (hsteps k y hy).1 with rfl | rfl
    · exact .inr ⟨_, _, _, knocked, rfl⟩
    · exact .inl rfl
  · intro k t before after hy
    obtain rfl : Instant.epoch = t := (Prod.mk.inj (hsteps k _ hy).2).1
    exact Instant.lt_irrefl _
  · rw [← hz]
    exact congrArg (fun s : Store => s.liveSession? x.id) hs

theorem newPassword_reach_straddled : ∃ T₁ b T c x, (service plainHasher).Run .nobody T₁ b ∧
    (service plainHasher).Run b T c ∧ plainHasher.Exact ∧
    ChangesPassword b c T 3 knownAnn none "another secret" ∧
    OpensWithout c 2 passwordSignIn x knownAnn "another secret" ∧
    ∃ τ : Turnover, τ.In plainHasher T 3 knownAnn none "another secret" ∧
      Straddles (T₁ ++ τ.early) τ.late 2 x := by
  obtain ⟨T₁, b, T, c, x, z, run₁, run₂, encounter, hread, hz, hactive⟩ := run_straddled
  obtain ⟨τ, turn, reach⟩ := newPassword_reach plainHasher_exact run₁ run₂ encounter.changes
  refine ⟨T₁, b, T, c, x, run₁, run₂, plainHasher_exact, encounter.changes, encounter.opens, τ, turn, ?_⟩
  rcases (reach 2 passwordSignIn x encounter.opens).1 .epoch z hread hz hactive with hkept | hstraddles
  · cases hkept
  · exact hstraddles

/-! ### What one might expect -/

/-- A new password cuts off the old one: of the sessions that the sign-ins have opened with it, none is
    running once everything is over, but the one to keep. -/
def CutsOff (h : Hasher) : Prop :=
  ∀ (T₁ T : Trace Store) (b c : Crowd Store (Request × Job) (Except ServiceFailure Value)) (i k : Nat)
    (u : User) (active : Option Session) (old new : String) (s : SignIn) (x z : Session) (now : Instant),
    (service h).Run .nobody T₁ b → (service h).Run b T c → Encounter h b c T i k u active old new s x →
    ReadBefore T now → c.shared.liveSession? x.id = some z → z.isActive now = true →
    active.map (·.id) = some x.id

/-- **The old password can still open a session that is left**: by a sign-in that straddles. -/
theorem not_cutsOff : ¬ CutsOff plainHasher := by
  intro claim
  obtain ⟨T₁, b, T, c, x, z, run₁, run₂, encounter, hread, hz, hactive⟩ := run_straddled
  cases claim T₁ T b c 3 2 knownAnn none "secret" "another secret" passwordSignIn x z .epoch run₁ run₂
    encounter hread hz hactive

end Turnstile
