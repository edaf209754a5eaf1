import Turnstile.Proofs.Service.Faithful
import Turnstile.Proofs.Service.Questions
import Turnstile.Proofs.Sessions.SignIn
import Turnstile.Proofs.Store.WellFormed

namespace Turnstile

open Credential (Hasher)

/-!
# Operations bring sound records

Whatever an operation is answered, the records that it asks to have stored are sound, if the one that it was
given is.

* `Service.Meets` says that an operation asks only what is demanded behind what has been exchanged, and gives
  only what is said; there is a rule for each of its parts. What an operation gives and what it asks can be
  shown apart (`Meets.of_gives`).
* `Proper` is the demand: users are sound, and sessions are sound and belong to the user that was found.
* `job_proper` puts the operations together, and `proper_of_task` says what it means in a run.
-/

/-! ### Meeting demands -/

namespace Service

variable {α β : Type} {D : List (Exchange Store) → Effect → Prop} {past : List (Exchange Store)}
  {Q : List (Exchange Store) → α → Prop} {R : List (Exchange Store) → β → Prop} {m : Service α}
  {f : β → Service α}

/-- Behind what has been exchanged, the operation asks only what is demanded and gives only what is said. -/
structure Meets (D : List (Exchange Store) → Effect → Prop) (past : List (Exchange Store))
    (Q : List (Exchange Store) → α → Prop) (m : Service α) : Prop where
  passes : m.Passes (.history fun past x => D past x.effect) (Given Q) past

theorem meets_pure {a : α} (h : Q past a) : Meets D past Q (pure a) := ⟨h⟩

theorem meets_throw (failure : ServiceFailure) : Meets D past Q (throw failure) := ⟨trivial⟩

theorem meets_throw_bind (failure : ServiceFailure) (f : β → Service α) :
    Meets D past Q (throw failure >>= f) := ⟨trivial⟩

theorem Meets.bind {m : Service β} (hm : Meets D past R m)
    (hf : ∀ past' b, R past' b → Meets D past' Q (f b)) : Meets D past Q (m >>= f) := by
  refine ⟨?_⟩
  rw [passes_bind]
  refine hm.passes.mono ?_
  rintro past' (failure | b) hgiven
  · exact trivial
  · exact (hf past' b hgiven).passes

theorem meets_checked (result : Except Rejection α) (h : ∀ a, result = .ok a → Q past a) :
    Meets D past Q (checked result) := by
  cases result with
  | error rejection => exact meets_throw _
  | ok a => exact meets_pure (h a rfl)

theorem meets_orReject (rejection : Rejection) (value : Option α) (h : ∀ a, value = some a → Q past a) :
    Meets D past Q (orReject rejection value) := by
  cases value with
  | none => exact meets_throw _
  | some a => exact meets_pure (h a rfl)

/-- What is shown of the answers to all questions holds where the questions meet a demand. -/
theorem passes_demand {p : Program α} {post : List (Exchange Store) → α → Prop}
    (hp : p.Passes notes post past) (asks : p.Asks fun e => ∀ past, D past e) :
    p.Passes (.history fun past x => D past x.effect) post past := by
  induction p generalizing past with
  | done value => exact hp
  | ask e next ih =>
    intro answer before after
    exact ⟨asks.1 past, ih answer (hp answer before after).2 (asks.2 answer)⟩

/-- What an operation gives and what it asks, put together. -/
theorem Meets.of_gives (gives : m.Passes notes (Given Q) past) (asks : m.Asks fun e => ∀ past, D past e) :
    Meets D past Q m :=
  ⟨passes_demand gives asks.program⟩

/-- If nothing is said of what it gives, it is enough to look at what it asks. -/
theorem meets_of_asks (asks : m.Asks fun e => ∀ past, D past e) : Meets D past (fun _ _ => True) m := by
  refine .of_gives (Passes.mono (passes_notes (K := fun _ => True) (fun _ _ _ => trivial) m.run past trivial)
    ?_) asks
  rintro past' (failure | a) -
  · exact trivial
  · exact trivial

end Service

open Service

/-! ### Sound records -/

/-- The user was found by address. -/
def Found (past : List (Exchange Store)) (id : Id) : Prop :=
  ∃ email u before after, ⟨.users (.getByEmail email), .ok (some u), before, after⟩ ∈ past ∧ u.id = id

/-- Users are sound; sessions are sound and belong to the user that was found. -/
def Proper (past : List (Exchange Store)) : Effect → Prop
  | .users (.create u) | .users (.save u) | .users (.delete u) => u.Sound
  | .sessions (.create x) => x.Sound ∧ Found past x.userId
  | _ => True

theorem Found.append {past : List (Exchange Store)} {id : Id} (h : Found past id)
    (rest : List (Exchange Store)) : Found (past ++ rest) id := by
  obtain ⟨email, u, before, after, hmem, hid⟩ := h
  exact ⟨email, u, before, after, List.mem_append_left _ hmem, hid⟩

/-- Plain questions bring no records. -/
theorem Effect.Plain.proper {e : Effect} (h : e.Plain) (past : List (Exchange Store)) : Proper past e := by
  cases e with
  | users call => cases call <;> first | exact trivial | exact h.elim
  | sessions call => cases call <;> first | exact trivial | exact h.elim
  | _ => exact trivial

section Operations

variable {h : Hasher} {r : Request} {past : List (Exchange Store)}

/-- Plain questions bring no records, behind whatever. -/
theorem plain_proper (e : Effect) (he : e.Plain) : ∀ past, Proper past e := he.proper

namespace Accounts

/-- A password is hashed into a record and does not stay on it. -/
theorem takePassword_gives_sound (context : String) (fields : Fields) {u : User} (hu : u.Sound) :
    (takePassword h context fields u).Passes notes (Given fun _ v => v.Sound) past := by
  have hgives : Gives (fun _ : List (Exchange Store) => True) (fun _ v => v.Sound)
      (takePassword h context fields u) := by
    unfold takePassword
    cases fields.password with
    | none => exact gives_pure fun _ _ => hu
    | some password =>
      refine gives_bind fun salt => ?_
      simp only [User.hashPassword]
      cases h.create salt password with
      | error e => exact gives_bind fun _ => gives_pure fun _ _ => ⟨rfl, hu.passwordSet, hu.email,
          hu.givenNames, hu.surname⟩
      | ok hash => exact gives_bind fun _ => gives_pure fun _ _ => ⟨rfl, rfl, hu.email, hu.givenNames,
          hu.surname⟩
  exact hgives past trivial

/-- An address in stored form is put into a record. -/
theorem takeEmail_gives_sound {fields : Fields} (stored : fields.Stored) {u : User} (hu : u.Sound) :
    (takeEmail fields u).Passes notes (Given fun _ v => v.Sound) past := by
  have hgives : Gives (fun _ : List (Exchange Store) => True) (fun _ v => v.Sound) (takeEmail fields u) := by
    unfold takeEmail
    cases hemail : fields.email with
    | none => exact gives_pure fun _ _ => hu
    | some email =>
      by_cases hsame : u.email = some email
      · simp only [if_pos hsame]
        exact gives_pure fun _ _ => hu
      · simp only [if_neg hsame]
        refine gives_bind fun _ => gives_pure fun _ _ =>
          ⟨hu.password, hu.passwordSet, fun e he => ?_, hu.givenNames, hu.surname⟩
        exact stored.email e (hemail.trans he)
  exact hgives past trivial

theorem create_proper (draft : Option UserDraft) :
    Meets Proper [] (fun _ _ => True) (create h r draft) := by
  refine (meets_orReject (Q := fun _ _ => True) _ draft fun _ _ => trivial).bind fun past d _ => ?_
  refine (meets_checked (Q := fun _ fields => fields.Stored) (check d) fun _ hd => stored_of_check hd).bind
    fun past fields stored => ?_
  refine (meets_of_asks (takeNewEmail_asks plain_proper fields)).bind fun past _ _ => ?_
  have hnew : { User.new with email := fields.email }.Sound :=
    ⟨rfl, rfl, stored.email, fun _ hname => (nomatch hname), fun _ hname => (nomatch hname)⟩
  refine (Meets.of_gives (takePassword_gives_sound _ fields hnew)
    (takePassword_asks plain_proper _ fields _)).bind fun past u hu => ?_
  -- the names are put in last
  have hnamed : { u with givenNames := fields.givenNames, surname := fields.surname }.Sound :=
    ⟨hu.password, hu.passwordSet, hu.email, stored.givenNames, stored.surname⟩
  refine meets_of_asks ((asks_users fun _ => hnamed).bind fun u => (log_asks plain_proper _ _ _).bind
    fun _ => ?_)
  exact (announce_asks plain_proper (fun _ _ => trivial) u).bind fun _ => asks_pure u

/-- A name that is supplied, or else the one from before. -/
theorem stored_of_orElse {new old : Option String} (hnew : ∀ name, new = some name → PersonName.Stored name)
    (hold : ∀ name, old = some name → PersonName.Stored name) (name : String)
    (hname : (new <|> old) = some name) : PersonName.Stored name := by
  cases new with
  | none => exact hold name hname
  | some raw => exact hnew name hname

theorem update_proper (user : Option User) (active : Option Session) (draft : Option UserDraft)
    (given : ∀ u, user = some u → u.Sound) :
    Meets Proper [] (fun _ _ => True) (update h r user active draft) := by
  refine (meets_orReject (Q := fun _ u => u.Sound) _ user given).bind fun past u hu => ?_
  refine (meets_orReject (Q := fun _ _ => True) _ draft fun _ _ => trivial).bind fun past d _ => ?_
  refine (meets_checked (Q := fun _ fields => fields.Stored) (check d) fun _ hd => stored_of_check hd).bind
    fun past fields stored => ?_
  refine (Meets.of_gives (takeEmail_gives_sound stored hu) (takeEmail_asks plain_proper fields u)).bind
    fun past u₁ h₁ => ?_
  refine (Meets.of_gives (takePassword_gives_sound _ fields h₁)
    (takePassword_asks plain_proper _ fields u₁)).bind fun past u₂ h₂ => ?_
  have hnamed : User.Sound { u₂ with
      givenNames := fields.givenNames <|> u₂.givenNames
      surname := fields.surname <|> u₂.surname } :=
    ⟨h₂.password, h₂.passwordSet, h₂.email, stored_of_orElse stored.givenNames h₂.givenNames,
      stored_of_orElse stored.surname h₂.surname⟩
  refine meets_of_asks ((save_asks fun _ => hnamed).bind fun saved => ?_)
  by_cases hpassword : fields.password.isSome = true
  · simp only [if_pos hpassword]
    exact (signOutOthers_asks plain_proper saved active).bind fun _ => asks_pure saved
  · simp only [if_neg hpassword]
    exact asks_pure saved

end Accounts

namespace Sessions

theorem isIssuable_of_issuable {raw : String} {purpose : Purpose} (h : issuable raw = .ok purpose) :
    purpose.isIssuable = true := by
  rw [issuable] at h
  split at h
  · split at h
    · next hissuable =>
      cases h
      exact hissuable
    · cases h
  · cases h
  · cases h

/-- Whoever is found has been found. -/
theorem findUser_found (s : SignIn) :
    Meets Proper past (fun past' found => ∀ u, found = some u → Found past' u.id) (findUser s) := by
  unfold findUser
  cases addressKey s with
  | none => exact meets_pure fun _ h => nomatch h
  | some email =>
    refine ⟨passes_users.2 fun answer before after => ⟨trivial, ?_⟩⟩
    rcases answer with failure | found
    · exact trivial
    · rintro u rfl
      exact ⟨email, u, before, after, List.mem_append_right _ List.mem_cons_self, rfl⟩

/-- A session that is prepared gets an expiry, and stays the user's. -/
theorem prepare_sound {x : Session} (clientIp : x.clientIp ≠ "") (issuable : x.purpose.isIssuable = true)
    (found : Found past x.userId) :
    Meets Proper past (fun past' y => y.Sound ∧ Found past' y.userId) (prepare h x) := by
  refine .of_gives ((prepare_passes x).mono ?_) (prepare_asks plain_proper x)
  rintro past' (failure | y) hprepared
  · exact trivial
  · obtain ⟨opened, expireAt, issued, draw, b, a, b', a', rfl, -, -, rfl⟩ := hprepared
    exact ⟨⟨clientIp, issuable, rfl⟩, (found.append _).append _⟩

theorem create_proper (signIn : Option SignIn) :
    Meets Proper [] (fun _ _ => True) (create h r signIn) := by
  refine (meets_orReject (Q := fun _ _ => True) _ signIn fun _ _ => trivial).bind fun past s _ => ?_
  by_cases hip : s.clientIp = ""
  · simp only [if_pos hip]
    exact meets_throw_bind _ _
  simp only [if_neg hip]
  refine (meets_checked (Q := fun _ purpose => purpose.isIssuable = true) (issuable s.purpose)
    fun _ h => isIssuable_of_issuable h).bind fun past purpose hpurpose => ?_
  refine (findUser_found s).bind fun past found hfound => ?_
  refine (meets_orReject (Q := fun past u => Found past u.id) _ found hfound).bind fun past u hu => ?_
  refine (meets_checked (Q := fun past _ => Found past u.id) _ fun _ _ => hu).bind fun past _ hu => ?_
  refine (prepare_sound hip hpurpose hu).bind fun past x hx => ?_
  -- the demand on the insertion is what is known of the session by then
  refine ⟨?_⟩
  rw [passes_bind, passes_sessions]
  intro answer before after
  refine ⟨hx, ?_⟩
  rcases answer with failure | y
  · exact trivial
  · exact (meets_of_asks ((log_asks plain_proper _ _ _).bind fun _ => asks_pure y)).passes

end Sessions

/-- **Each operation brings sound records**, if the record of a user that it was given is sound. -/
theorem job_proper (job : Job) (given : ∀ u, job.record? = some u → u.Sound) :
    Meets Proper [] (fun _ _ => True) (job.program h r) := by
  cases job with
  | signUp draft => exact (Accounts.create_proper draft).bind fun _ _ _ => meets_pure trivial
  | update user active draft =>
    exact (Accounts.update_proper user active draft given).bind fun _ _ _ => meets_pure trivial
  | signIn s => exact (Sessions.create_proper s).bind fun _ _ _ => meets_pure trivial
  | deleteUser user =>
    refine meets_of_asks ((Accounts.delete_asks plain_proper user fun u hu _ => given u hu).bind fun _ => ?_)
    exact asks_pure _
  | getUser id => exact meets_of_asks ((Accounts.get_asks plain_proper id).bind fun _ => asks_pure _)
  | getSession id => exact meets_of_asks ((Sessions.get_asks plain_proper id).bind fun _ => asks_pure _)
  | signOut userId keep =>
    exact meets_of_asks ((Sessions.delete_asks plain_proper userId keep).bind fun _ => asks_pure _)
  | verify authorization =>
    exact meets_of_asks ((Sessions.verify_asks plain_proper authorization).bind fun _ => asks_pure _)

/-- In a run, an operation is about to ask only what is proper behind what it has been answered. -/
theorem proper_of_task {T : Trace Store} {c : Crowd Store (Request × Job) (Except ServiceFailure Value)}
    {i : Nat} {job : Job} (x : Exchange Store)
    {next : x.effect.Answer → Program (Except ServiceFailure Value)} (run : (service h).Run .nobody T c)
    (task : c.tasks[i]? = some ⟨(r, job), .ask x.effect next⟩)
    (given : ∀ u, job.record? = some u → u.Sound) : Proper (T.own i) x.effect := by
  have hpasses : ((service h).program (r, job)).Passes (.history fun past x => Proper past x.effect)
      (Given fun _ _ => True) [] := (job_proper job given).passes
  have hasks := (run.passes task hpasses x.answer x.before x.after).1
  rwa [Trace.noted_history] at hasks

end Operations

end Turnstile
