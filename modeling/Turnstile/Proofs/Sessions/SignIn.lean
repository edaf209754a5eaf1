import Turnstile.Proofs.Credential.Presented
import Turnstile.Proofs.Service.Answered

namespace Turnstile.Sessions

open Credential (Hasher)
open Service (notes Given leads_bind_ok leads_checked leads_orReject leads_pure leads_sessions leads_users)

/-!
# What a sign-in has done

What a sign-in that succeeds has exchanged on the way: it has found a user who passed the check of the
password, read the clock once, and inserted one session with a new token's hash and the expiry for that
reading.

* `Course` lists the exchanges in their order, and `course_of_finished` finds them in a run.
* `Issued` is what they mean for the session.
-/

/-- The session was issued: its user was found, its expiry was computed from a reading of the clock, and it
    was inserted with the hash of its token. -/
inductive Issued (h : Hasher) (past : List (Exchange Store)) (x : Session) : Prop where
  | intro (email : String) (u : User) (opened expireAt : Instant) (salt : Credential.Salt)
      (token : String) (y : Session)
      (found : ∃ before after, ⟨.users (.getByEmail email), .ok (some u), before, after⟩ ∈ past)
      (clock : ∃ before after, ⟨.clock, opened, before, after⟩ ∈ past)
      (inserted : ∃ before after, ⟨.sessions (.create y), .ok x, before, after⟩ ∈ past)
      (userId : y.userId = u.id) (live : y.isLive = true)
      (hexpire : Expiry.compute? opened = some expireAt) (expires : y.expireAt = some expireAt)
      (htoken : y.token = some token) (hex : ∀ c ∈ token.toList, Text.isHexDigit c = true)
      (hashed : h.create salt token = .ok y.tokenHash)

section Passes

variable {h : Hasher} {past : List (Exchange Store)}

/-- Giving a session a token and an expiry draws at random and reads the clock. -/
theorem prepare_passes (x : Session) :
    (prepare h x).Passes notes (Given fun past' y => ∃ opened expireAt issued draw b a b' a',
      past' = past ++ [⟨.draw, draw, b, a⟩] ++ [⟨.clock, opened, b', a'⟩] ∧
      Expiry.compute? opened = some expireAt ∧ Credential.tokenCreate h draw = .ok issued ∧
      y = { x with token := some issued.token, tokenHash := issued.hash, expireAt := some expireAt })
      past := by
  rw [prepare, Service.passes_bind, Service.passes_perform]
  -- the token and its hash come from what is drawn
  intro draw b a
  refine ⟨trivial, ?_⟩
  show Service.Passes _ _ (Service.credential createContext (x.issueToken h draw) >>= _) _
  cases hissued : Credential.tokenCreate h draw with
  | error e =>
    have hfailed : x.issueToken h draw = .error e := by
      rw [Session.issueToken, hissued]
      rfl
    rw [hfailed]
    exact trivial
  | ok issued =>
    have hdone : x.issueToken h draw =
        .ok { x with token := some issued.token, tokenHash := issued.hash } := by
      rw [Session.issueToken, hissued]
      rfl
    rw [hdone]
    -- the expiry comes from what the clock shows then
    show Service.Passes _ _ (Service.perform .clock >>= _) _
    rw [Service.passes_bind, Service.passes_perform]
    intro opened b' a'
    refine ⟨trivial, ?_⟩
    simp only [Service.Onward]
    cases hexpire : Expiry.compute? opened with
    | none => exact trivial
    | some expireAt => exact ⟨opened, expireAt, issued, draw, b, a, b', a', rfl, hexpire, hissued, rfl⟩

/-- A session as it is inserted: with a token, the hash of it, and an expiry. -/
def opening (u : User) (clientIp : String) (purpose : Purpose) (token hash : String) (expireAt : Instant) :
    Session :=
  { Session.new u.id clientIp purpose with
    token := some token, tokenHash := hash, expireAt := some expireAt }

/-- The exchanges of a sign-in that has succeeded. -/
inductive Course (h : Hasher) (s : SignIn) (x : Session) : List (Exchange Store) → Prop where
  | intro (purpose : Purpose) (email : String) (u : User) (draw : Credential.Draw)
      (opened expireAt : Instant) (salt : Credential.Salt) (token hash : String)
      (b a b₁ a₁ b₂ a₂ b₃ a₃ : Store) (logged : Exchange Store)
      (hpurpose : issuable s.purpose = .ok purpose) (key : addressKey s = some email)
      (checked : checkPassword h s purpose u = .ok ()) (hexpire : Expiry.compute? opened = some expireAt)
      (hex : ∀ c ∈ token.toList, Text.isHexDigit c = true) (hashed : h.create salt token = .ok hash) :
      Course h s x [⟨.users (.getByEmail email), .ok (some u), b, a⟩, ⟨.draw, draw, b₁, a₁⟩,
        ⟨.clock, opened, b₂, a₂⟩,
        ⟨.sessions (.create (opening u s.clientIp purpose token hash expireAt)), .ok x, b₃, a₃⟩, logged]

theorem findUser_leads {s : SignIn} {u : User} {xs : List (Exchange Store)}
    (hfind : (findUser s).run.Leads xs (.done (.ok (some u)))) :
    ∃ email b a, addressKey s = some email ∧
      xs = [⟨.users (.getByEmail email), .ok (some u), b, a⟩] := by
  rw [findUser] at hfind
  cases hkey : addressKey s with
  | none =>
    rw [hkey] at hfind
    cases (leads_pure.1 hfind).2
  | some email =>
    rw [hkey] at hfind
    obtain ⟨b, a, rfl⟩ := leads_users.1 hfind
    exact ⟨email, b, a, rfl, rfl⟩

/-- **A sign-in that succeeds** has taken this course. -/
theorem create_leads {r : Request} {signIn : Option SignIn} {x : Session} {xs : List (Exchange Store)}
    (hcreate : (create h r signIn).run.Leads xs (.done (.ok x))) :
    ∃ s, signIn = some s ∧ Course h s x xs := by
  obtain ⟨_, _, s, rfl, hs, hrest₁⟩ := leads_bind_ok.1 hcreate
  obtain ⟨rfl, rfl⟩ := leads_orReject.1 hs
  refine ⟨s, rfl, ?_⟩
  by_cases hip : s.clientIp = ""
  · simp only [if_pos hip] at hrest₁
    obtain ⟨_, _, _, -, hthrow, -⟩ := leads_bind_ok.1 hrest₁
    exact absurd hthrow Service.leads_throw
  simp only [if_neg hip] at hrest₁
  -- the purpose, the lookup, and the check of the password
  obtain ⟨_, _, purpose, rfl, hissuable, hrest₂⟩ := leads_bind_ok.1 hrest₁
  obtain ⟨rfl, hpurpose⟩ := leads_checked.1 hissuable
  obtain ⟨_, _, found, rfl, hfind, hrest₃⟩ := leads_bind_ok.1 hrest₂
  obtain ⟨_, _, u, rfl, hu, hrest₄⟩ := leads_bind_ok.1 hrest₃
  obtain ⟨rfl, rfl⟩ := leads_orReject.1 hu
  obtain ⟨email, b, a, hkey, rfl⟩ := findUser_leads hfind
  obtain ⟨_, _, ⟨⟩, rfl, hcheck, hrest₅⟩ := leads_bind_ok.1 hrest₄
  obtain ⟨rfl, hchecked⟩ := leads_checked.1 hcheck
  -- the token and the expiry
  obtain ⟨_, _, y, rfl, hprepare, hrest₆⟩ := leads_bind_ok.1 hrest₅
  have hprepared : (prepare h (Session.new u.id s.clientIp purpose)).Passes notes _
      ([] : List (Exchange Store)) := prepare_passes _
  obtain ⟨opened, expireAt, issued, draw, b₁, a₁, b₂, a₂, hys, hexpire, hissued, rfl⟩ :=
    hprepared.of_leads hprepare
  obtain ⟨htoken, hhash⟩ := Credential.tokenCreate_ok hissued
  rw [notes, Watch.foldl_history] at hys
  obtain rfl := hys
  -- the insertion and the entry in the log
  obtain ⟨_, _, x', rfl, hinsert, hrest₇⟩ := leads_bind_ok.1 hrest₆
  obtain ⟨b₃, a₃, rfl⟩ := leads_sessions.1 hinsert
  obtain ⟨_, _, ⟨⟩, rfl, hlog, hend⟩ := leads_bind_ok.1 hrest₇
  obtain ⟨b₄, a₄, rfl⟩ := Service.leads_perform.1 hlog
  obtain ⟨rfl, rfl⟩ := leads_pure.1 hend
  exact .intro purpose email u draw opened expireAt draw.tokenSalt issued.token issued.hash b a b₁ a₁ b₂
    a₂ b₃
    a₃ _ hpurpose hkey hchecked hexpire htoken.hex hhash

end Passes

section Finished

variable {h : Hasher} {T : Trace Store} {c : Crowd Store (Request × Job) (Except ServiceFailure Value)}
  {i : Nat} {r : Request} {signIn : Option SignIn} {x : Session}

/-- In a run, the exchanges of a sign-in that has succeeded are these. -/
theorem course_of_finished (run : (service h).Run .nobody T c)
    (hi : c.Finished i (r, .signIn signIn) (.ok (.session x))) :
    ∃ s, signIn = some s ∧ Course h s x (T.own i) := by
  have hleads : (create h r signIn >>= fun y => pure (Value.session y) : Service Value).run.Leads (T.own i)
      (.done (.ok (.session x))) := run.leads hi
  obtain ⟨result, hcreate, hvalue⟩ := Service.leads_map.1 hleads
  cases result <;> cases hvalue
  exact create_leads hcreate

/-- They are those of an issue. -/
theorem issued_of_finished (run : (service h).Run .nobody T c)
    (hi : c.Finished i (r, .signIn signIn) (.ok (.session x))) : Issued h (T.own i) x := by
  obtain ⟨s, -, course⟩ := course_of_finished run hi
  generalize T.own i = own at course
  obtain ⟨purpose, email, u, draw, opened, expireAt, salt, token, hash, b, a, b₁, a₁, b₂, a₂, b₃, a₃, logged,
    -, -, -, hexpire, hhex, hhash⟩ := course
  refine .intro email u opened expireAt salt token (opening u s.clientIp purpose token hash expireAt)
    ⟨b, a, ?_⟩ ⟨b₂, a₂, ?_⟩ ⟨b₃, a₃, ?_⟩ rfl rfl hexpire rfl rfl hhex hhash
  all_goals simp

end Finished

end Turnstile.Sessions
