import Mathlib.Data.List.Forall2
import Turnstile.Proofs.Service.Undisturbed

namespace Turnstile

/-!
# What a sign-out does

The loop over the running sessions of a user, without anything in between.

* `reaches` is the condition that a row has to meet, and `Store.signedOut` the store in which the rows
  that meet it are marked, with one stamp after the other.
* `runOn_signOut`: listing the running sessions and deleting them one by one gives this store, and counts
  the rows that were marked.
-/

/-- Whether signing a user out at an instant reaches a row: a live session of the user, with an expiry
    strictly later, and not the one to keep. -/
def reaches (userId : Id) (keep : Option Id) (now : Instant) (x : Session) : Bool :=
  Store.runsBeyond userId now x && some x.id != keep

namespace Store

/-- The stamp behind so many others. -/
def stampAt (stamps : Nat) : Instant := ⟨clockStart + stamps + 1, 0⟩

/-- Mark the rows that meet a condition as deleted, with one stamp after the other. -/
def markEach (p : Session → Bool) : Nat → List Session → List Session
  | _, [] => []
  | n, x :: rest =>
    if p x then { x with deletedAt := some (stampAt n) } :: markEach p (n + 1) rest
    else x :: markEach p n rest

/-- The store in which the sessions that meet a condition are marked as deleted. -/
def signedOut (s : Store) (p : Session → Bool) : Store :=
  { s with sessions := markEach p s.stamps s.sessions, stamps := s.stamps + s.sessions.countP p }

variable {p : Session → Bool} {n : Nat} {l : List Session} {s : Store}

/-- Row by row: a row that meets the condition gets a stamp, any other stays as it is. -/
theorem markEach_forall₂ (p : Session → Bool) (n : Nat) (l : List Session) :
    List.Forall₂ (fun x x' => (p x = true → ∃ t, x' = { x with deletedAt := some t }) ∧
      (p x = false → x' = x)) l (markEach p n l) := by
  induction l generalizing n with
  | nil => exact .nil
  | cons x l ih =>
    by_cases hx : p x = true
    · rw [markEach, if_pos hx]
      refine .cons ⟨fun _ => ⟨_, rfl⟩, fun hnot => ?_⟩ (ih _)
      rw [hx] at hnot
      cases hnot
    · rw [markEach, if_neg hx]
      exact .cons ⟨fun hpos => absurd hpos hx, fun _ => rfl⟩ (ih _)

/-- Marking rows leaves their keys alone. -/
theorem map_id_markEach (p : Session → Bool) (n : Nat) (l : List Session) :
    (markEach p n l).map Session.id = l.map Session.id := by
  induction l generalizing n with
  | nil => rfl
  | cons x l ih =>
    by_cases hx : p x = true
    · rw [markEach, if_pos hx, List.map_cons, List.map_cons, ih]
    · rw [markEach, if_neg hx, List.map_cons, List.map_cons, ih]

/-- Changing the first row that meets a condition, where the rows before it do not. -/
theorem changeFirst_append {q : α → Bool} {f : α → α} {before : List α} {a : α} {behind : List α}
    (hbefore : ∀ b ∈ before, q b = false) (ha : q a = true) :
    changeFirst q f (before ++ a :: behind) = before ++ f a :: behind := by
  induction before with
  | nil => exact if_pos ha
  | cons b before ih =>
    have hb : ¬ q b = true := by
      rw [hbefore b List.mem_cons_self]
      exact Bool.false_ne_true
    rw [List.cons_append, changeFirst, if_neg hb, ih fun c hc => hbefore c (List.mem_cons_of_mem _ hc),
      List.cons_append]

/-- Deleting a live session marks its row and leaves the rows before and behind it alone. -/
theorem deleteSession_append {before behind : List Session} {x : Session}
    (hs : s.sessions = before ++ x :: behind) (hbefore : ∀ y ∈ before, y.id ≠ x.id)
    (live : x.isLive = true) :
    s.deleteSession x = (.ok (s.markedSession x),
      { s.tick with sessions := before ++ s.markedSession x :: behind }) := by
  have hother : ∀ y ∈ before, isLiveSession x.id y = false := by
    intro y hy
    rw [isLiveSession, beq_eq_false_iff_ne.2 (hbefore y hy), Bool.false_and]
  have hself : isLiveSession x.id x = true := isLiveSession_iff.2 ⟨rfl, live⟩
  have hfound : s.liveSession? x.id = some x := by
    rw [liveSession?, hs, List.find?_append, List.find?_eq_none.2 (fun y hy => by simp [hother y hy]),
      Option.none_or, List.find?_cons_of_pos hself]
  have hmark : changeFirst (isLiveSession x.id) s.markedSession (before ++ x :: behind)
      = before ++ s.markedSession x :: behind := changeFirst_append hother hself
  rw [deleteSession, hfound, hs]
  exact congrArg (fun l => (Except.ok (s.markedSession x), { s.tick with sessions := l })) hmark

end Store

/-! ### The loop -/

namespace Accounts

open Service

variable {o : Surroundings} {keep : Option Id} {p q : Session → Bool}

/-- **The loop of a sign-out.** Of the rows behind those that are done with, the listed ones but the one
    to keep are marked one after the other. -/
theorem runOn_deleteEach (context : String) (hp : ∀ x, p x = (q x && some x.id != keep))
    (live : ∀ x, q x = true → x.isLive = true) (before rest : List Session) (s : Store)
    (hs : s.sessions = before ++ rest) (unique : (s.sessions.map Session.id).Nodup) :
    (deleteEach context keep (rest.filter q)).runOn o s = (.ok (rest.countP p), { s with
      sessions := before ++ Store.markEach p s.stamps rest, stamps := s.stamps + rest.countP p }) := by
  induction rest generalizing before s with
  | nil =>
    obtain ⟨users, sessions, lastUser, lastSession, stamps⟩ := s
    obtain rfl : sessions = before ++ [] := hs
    rfl
  | cons x rest ih =>
    have hmove (y : Session) : before ++ y :: rest = (before ++ [y]) ++ rest :=
      List.append_cons before y rest
    by_cases hx : p x = true
    · -- the row is listed and is not the one to keep
      have hlisted : q x = true ∧ some x.id ≠ keep := by simpa [hp] using hx
      have hbefore : ∀ y ∈ before, y.id ≠ x.id := by
        rw [hs, List.map_append, List.map_cons, List.nodup_append] at unique
        intro y hy
        exact unique.2.2 _ (List.mem_map_of_mem hy) _ List.mem_cons_self
      -- its mark takes one stamp, and the loop goes on with the next
      have hdelete := Store.deleteSession_append hs hbefore (live x hlisted.1)
      have hids : ((before ++ s.markedSession x :: rest).map Session.id).Nodup := by
        rw [hs] at unique
        simpa [Store.markedSession] using unique
      have hrest := ih (before ++ [s.markedSession x])
        { s.tick with sessions := before ++ s.markedSession x :: rest } (hmove _) hids
      rw [List.filter_cons_of_pos hlisted.1, deleteEach, if_neg hlisted.2, runOn_bind, runOn_sessions]
      show goOn o _ ((s.deleteSession x).1.mapError _, (s.deleteSession x).2) = _
      rw [hdelete]
      show (_ >>= _ : Service Nat).runOn o _ = _
      rw [runOn_bind, hrest, Store.markEach, if_pos hx, List.countP_cons_of_pos hx]
      have hstamps : s.stamps + 1 + rest.countP p = s.stamps + (rest.countP p + 1) := by omega
      show (Except.ok (rest.countP p + 1), ({ s with
        sessions := (before ++ [s.markedSession x]) ++ Store.markEach p (s.stamps + 1) rest
        stamps := s.stamps + 1 + rest.countP p } : Store)) = _
      rw [← List.append_cons, hstamps]
      rfl
    · -- the row is not listed, or it is the one to keep
      have hskip : (deleteEach context keep ((x :: rest).filter q)).runOn o s
          = (deleteEach context keep (rest.filter q)).runOn o s := by
        by_cases hq : q x = true
        · have hkeep : some x.id = keep := by simpa [hp, hq] using hx
          rw [List.filter_cons_of_pos hq, deleteEach, if_pos hkeep]
        · rw [List.filter_cons_of_neg hq]
      rw [hskip, ih (before ++ [x]) s (hs.trans (hmove x)) unique, Store.markEach, if_neg hx,
        List.countP_cons_of_neg hx, ← List.append_cons]

/-- **A sign-out** marks the rows that it reaches and counts them. -/
theorem runOn_signOut (context : String) (userId : Id) (keep : Option Id) (s : Store)
    (unique : (s.sessions.map Session.id).Nodup) :
    (signOut context userId keep).runOn o s
      = (.ok (s.sessions.countP (reaches userId keep (o .clock))),
        s.signedOut (reaches userId keep (o .clock))) := by
  have hlive : ∀ x, Store.runsBeyond userId (o .clock) x = true → x.isLive = true := by
    intro x hx
    rw [Store.runsBeyond, Bool.and_eq_true, Bool.and_eq_true] at hx
    exact hx.1.2
  have hloop := runOn_deleteEach (o := o) (p := reaches userId keep (o .clock)) context
    (fun _ => rfl) hlive [] s.sessions s rfl unique
  rw [signOut, runOn_bind, runOn_clock, goOn_ok, runOn_bind, runOn_sessions]
  exact hloop

end Accounts

/-! ### The two paths -/

/-- Deleting the sessions of a user is a sign-out. -/
theorem Sessions.runOn_delete {o : Surroundings} (r : Request) {userId : Id} (huser : userId ≠ 0)
    (keep : Option Session) (s : Store) (unique : (s.sessions.map Session.id).Nodup) :
    (Sessions.delete r userId keep).runOn o s
      = (.ok (s.sessions.countP (reaches userId (keep.map (·.id)) (o .clock))),
        s.signedOut (reaches userId (keep.map (·.id)) (o .clock))) := by
  unfold Sessions.delete
  simp only [if_neg huser]
  rw [Service.runOn_bind, Accounts.runOn_signOut _ _ _ _ unique]
  rfl

namespace Accounts

open Service

variable {o : Surroundings} {α β : Type}

/-- What an update does up to the point where the user is saved. -/
def change (h : Credential.Hasher) (fields : Fields) (u : User) : Service User := do
  let u ← takeEmail fields u
  let u ← takePassword h updateContext fields u
  save { u with
    givenNames := fields.givenNames <|> u.givenNames
    surname := fields.surname <|> u.surname }

/-- What an update does behind that point. -/
def settle (r : Request) (fields : Fields) (active : Option Session) (u : User) : Service User := do
  if fields.password.isSome then signOutOthers r u active
  return u

/-- An update with a checked draft saves the user, and then signs out if there is a new password. -/
theorem runOn_update (h : Credential.Hasher) (r : Request) (u : User) (active : Option Session)
    {d : UserDraft} {fields : Fields} (hfields : check d = .ok fields) (s : Store) :
    (update h r (some u) active (some d)).runOn o s
      = goOn o (settle r fields active) ((change h fields u).runOn o s) := by
  rw [update, change]
  show (Service.checked (check d) >>= _ : Service User).runOn o s = _
  rw [hfields]
  show (takeEmail fields u >>= _ : Service User).runOn o s = _
  rw [runOn_bind, runOn_bind]
  -- up to the save both sides do the same; a failure ends both
  rcases (takeEmail fields u).runOn o s with ⟨f | u₁, s₁⟩
  · rfl
  · rw [goOn_ok, goOn_ok, runOn_bind, runOn_bind]
    rcases (takePassword h updateContext fields u₁).runOn o s₁ with ⟨f | u₂, s₂⟩
    · rfl
    · rw [goOn_ok, goOn_ok, runOn_bind]
      rfl

/-- By itself, the operation leaves the sessions alone. -/
def LeavesSessions (o : Surroundings) (m : Service α) : Prop :=
  ∀ s, (m.runOn o s).2.sessions = s.sessions

theorem LeavesSessions.bind {m : Service α} {f : α → Service β} (hm : LeavesSessions o m)
    (hf : ∀ a, LeavesSessions o (f a)) : LeavesSessions o (m >>= f) := by
  intro s
  have hfirst := hm s
  rw [runOn_bind]
  generalize m.runOn o s = result at hfirst ⊢
  rcases result with ⟨failure | a, s'⟩
  · exact hfirst
  · exact (hf a s').trans hfirst

theorem leavesSessions_users (context : String) (call : UserCall) :
    LeavesSessions o (Service.users context call) := by
  intro s
  rw [runOn_users]
  exact s.callUsers_sessions call

/-- Up to the save, an update leaves the sessions alone. -/
theorem leavesSessions_change (h : Credential.Hasher) (fields : Fields) (u : User) :
    LeavesSessions o (change h fields u) := by
  -- the address, the password, the save
  refine LeavesSessions.bind ?_ fun u₁ => LeavesSessions.bind ?_ fun u₂ => ?_
  · unfold takeEmail
    cases fields.email with
    | none => exact fun _ => rfl
    | some email =>
      by_cases hsame : u.email = some email
      · simp only [if_pos hsame]
        exact fun _ => rfl
      · simp only [if_neg hsame]
        refine LeavesSessions.bind ?_ fun _ _ => rfl
        refine LeavesSessions.bind (leavesSessions_users _ _) fun found => ?_
        cases found <;> exact fun _ => rfl
  · unfold takePassword
    cases fields.password with
    | none => exact fun _ => rfl
    | some password =>
      refine LeavesSessions.bind (fun _ => rfl) fun salt => ?_
      rcases User.hashPassword h salt _ with ⟨e | ⟨⟩, u₂⟩ <;> exact fun _ => rfl
  · refine LeavesSessions.bind (fun s => s.callUsers_sessions (.save _)) fun answer => ?_
    rcases answer with f | saved
    · by_cases hnotFound : f.isNotFound = true
      · simp only [if_pos hnotFound]
        exact fun _ => rfl
      · simp only [if_neg hnotFound]
        exact fun _ => rfl
    · exact fun _ => rfl

/-- The sign-out behind a new password. -/
theorem runOn_settle (r : Request) {fields : Fields} (hpassword : fields.password.isSome = true)
    (active : Option Session) (u : User) (s : Store)
    (unique : (s.sessions.map Session.id).Nodup) :
    (settle r fields active u).runOn o s
      = (.ok u, s.signedOut (reaches u.id (active.map (·.id)) (o .clock))) := by
  unfold settle
  simp only [if_pos hpassword]
  rw [runOn_bind, signOutOthers, runOn_bind, runOn_signOut _ _ _ _ unique]
  rfl

end Accounts

end Turnstile
