import Turnstile.Proofs.Accounts.Draft
import Turnstile.Proofs.Credential.StoredHash
import Turnstile.Proofs.Service.Answered
import Turnstile.Proofs.Service.Questions
import Turnstile.Proofs.Service.Undisturbed

namespace Turnstile.Accounts

open Credential (Hasher)

/-!
# The protocol of an update

What one update does on its own, whatever it is answered.

* `Update.put` is the record that is saved: the record that was given, with the checked fields put in.
* `Update.watch` demands that nothing is asked but what belongs to the checked draft: a lookup of another
  address, then one save of that record, and nothing behind a save that failed.
* `Update.Outcome` lists what an update can come back with, each with what it was answered on the way.
* `update_passes` is the proof that the program keeps to this.
* `Update.Course` parts the exchanges at the save, and `update_course` finds it.
-/

namespace Update

/-! ### The record -/

/-- A password that is given, and the hash that was made of it. -/
inductive Hashed (h : Hasher) : Option String → Option String → Prop where
  | absent : Hashed h none none
  | made (salt : Credential.Salt) (password hash : String) (create : h.create salt password = .ok hash) :
      Hashed h (some password) (some hash)

/-- A record with the fields of a draft put in, and with the hash of a new password. -/
def put (fields : Fields) (hash : Option String) (u : User) : User :=
  { u with
    email := fields.email <|> u.email
    emailVerified := u.emailVerified && (fields.email.isNone || u.email == fields.email)
    password := if hash.isSome then none else u.password
    passwordHash := hash <|> u.passwordHash
    passwordSet := hash.isSome || u.passwordSet
    givenNames := fields.givenNames <|> u.givenNames
    surname := fields.surname <|> u.surname }

/-- What an update with these fields saves of a record. -/
def Saves (h : Hasher) (fields : Fields) (u w : User) : Prop :=
  ∃ hash, Hashed h fields.password hash ∧ w = put fields hash u

section Record

variable {h : Hasher} {fields : Fields} {u w : User}

theorem Saves.id_eq (saves : Saves h fields u w) : w.id = u.id := by
  obtain ⟨hash, -, rfl⟩ := saves
  rfl

end Record

/-! ### What an update may do -/

/-- The exchange is a save that failed. -/
def Fails (x : Exchange Store) (f : RepositoryFailure) : Prop :=
  ∃ w before after, x = ⟨.users (.save w), .error f, before, after⟩

/-- No save has been tried. -/
def Quiet (past : List (Exchange Store)) : Prop := ∀ y ∈ past, ∀ w, y.effect ≠ .users (.save w)

/-- Of all exchanges, this one is the save. -/
def TheSave (past : List (Exchange Store)) (x : Exchange Store) : Prop :=
  x ∈ past ∧ ∀ y ∈ past, ∀ w, y.effect = .users (.save w) → y = x

/-- What belongs to an update of a record with checked fields. -/
def Asks (h : Hasher) (fields : Fields) (u : User) : Effect → Prop
  | .users (.getByEmail email) => fields.email = some email ∧ u.email ≠ some email
  | .users (.save w) => Saves h fields u w
  | .sessions (.listActive ..) | .sessions (.delete _) => fields.password.isSome = true
  | .users _ | .sessions _ => False
  | _ => True

/-- The watch over an update. -/
def watch (h : Hasher) (user : Option User) (draft : Option UserDraft) :
    Watch Store (List (Exchange Store)) :=
  .history fun past x => (∀ y ∈ past, ∀ f, ¬ Fails y f) ∧
    ∃ u d fields, user = some u ∧ draft = some d ∧ check d = .ok fields ∧ Asks h fields u x.effect

/-- What a save that failed is told as. -/
def saveFailure (f : RepositoryFailure) : ServiceFailure :=
  if f.isNotFound then .rejected .userNotFound else .repository updateContext f

/-- What an update can come back with. -/
inductive Outcome (h : Hasher) (user : Option User) (draft : Option UserDraft)
    (past : List (Exchange Store)) : Except ServiceFailure User → Prop where
  /-- Nothing to change or to check, or something in it is wrong. -/
  | invalid (rejection : Rejection)
      (fault : ∀ u d fields, user = some u → draft = some d → check d ≠ .ok fields)
      (quiet : Quiet past) : Outcome h user draft past (.error (.rejected rejection))
  /-- Somebody has the other address. -/
  | taken (email : String) (v : User) (before after : Store)
      (found : ⟨.users (.getByEmail email), .ok (some v), before, after⟩ ∈ past)
      (quiet : Quiet past) : Outcome h user draft past (.error (.rejected .userEmailExists))
  /-- The lookup of the other address failed. -/
  | lookupFailed (email : String) (f : RepositoryFailure) (before after : Store)
      (answer : ⟨.users (.getByEmail email), .error f, before, after⟩ ∈ past)
      (quiet : Quiet past) : Outcome h user draft past (.error (.repository updateContext f))
  /-- The password could not be hashed. -/
  | unhashed (d : UserDraft) (fields : Fields) (password : String) (salt : Credential.Salt)
      (e : Credential.CredentialError) (hd : draft = some d) (hfields : check d = .ok fields)
      (hpassword : fields.password = some password) (refused : h.create salt password = .error e)
      (quiet : Quiet past) : Outcome h user draft past (.error (.credential updateContext e))
  /-- The save failed. -/
  | saveFailed (f : RepositoryFailure) (x : Exchange Store) (save : TheSave past x) (failed : Fails x f) :
      Outcome h user draft past (.error (saveFailure f))
  /-- The user is saved, but signing out has failed. -/
  | signOutFailed (call : SessionCall) (f : RepositoryFailure) (before after : Store)
      (answer : ⟨.sessions call, .error f, before, after⟩ ∈ past) (w saved : User)
      (before' after' : Store) (save : TheSave past ⟨.users (.save w), .ok saved, before', after'⟩) :
      Outcome h user draft past (.error (.repository updateContext f))
  /-- The user is saved. -/
  | done (w saved : User) (before after : Store)
      (save : TheSave past ⟨.users (.save w), .ok saved, before, after⟩) :
      Outcome h user draft past (.ok saved)

/-! ### The parts of an update -/

section Parts

variable {h : Hasher} {user : Option User} {draft : Option UserDraft} {u w saved : User} {d : UserDraft}
  {fields : Fields} {past : List (Exchange Store)} {x y : Exchange Store}

theorem Quiet.not_fails (hq : Quiet past) : ∀ y ∈ past, ∀ f, ¬ Fails y f := by
  rintro y hy f ⟨w, before, after, rfl⟩
  exact hq _ hy w rfl

theorem Quiet.snoc (hq : Quiet past) (hx : ∀ w, x.effect ≠ .users (.save w)) : Quiet (past ++ [x]) := by
  intro y hy
  rcases List.mem_append.1 hy with hy | hy
  · exact hq y hy
  · obtain rfl := List.mem_singleton.1 hy
    exact hx

/-- The first exchange that is a save is the save. -/
theorem Quiet.theSave (hq : Quiet past) : TheSave (past ++ [x]) x := by
  refine ⟨List.mem_append_right _ List.mem_cons_self, fun y hy w hw => ?_⟩
  rcases List.mem_append.1 hy with hy | hy
  · exact absurd hw (hq y hy w)
  · exact List.mem_singleton.1 hy

theorem TheSave.snoc (hsave : TheSave past y) (hx : ∀ w, x.effect ≠ .users (.save w)) :
    TheSave (past ++ [x]) y := by
  refine ⟨List.mem_append_left _ hsave.1, fun z hz w hw => ?_⟩
  rcases List.mem_append.1 hz with hz | hz
  · exact hsave.2 z hz w hw
  · obtain rfl := List.mem_singleton.1 hz
    exact absurd hw (hx w)

/-- If the save has succeeded, no save has failed. -/
theorem TheSave.not_fails {before after : Store}
    (hsave : TheSave past ⟨.users (.save w), .ok saved, before, after⟩) :
    ∀ y ∈ past, ∀ f, ¬ Fails y f := by
  rintro y hy f ⟨v, before', after', rfl⟩
  cases hsave.2 _ hy v rfl

/-- The demands on a question that belongs to the update, as long as no save has failed. -/
theorem demanded (hu : user = some u) (hd : draft = some d) (hfields : check d = .ok fields) {e : Effect}
    {answer : e.Answer} {before after : Store} (asks : Asks h fields u e)
    (hpast : ∀ y ∈ past, ∀ f, ¬ Fails y f) :
    (watch h user draft).demands past ⟨e, answer, before, after⟩ :=
  ⟨hpast, u, d, fields, hu, hd, hfields, asks⟩

/-- A step behind which an update goes on only if it has not tried to save yet. -/
def Step (h : Hasher) (user : Option User) (draft : Option UserDraft) (P : α → Prop)
    (past : List (Exchange Store)) : Except ServiceFailure α → Prop
  | .ok value => Quiet past ∧ P value
  | .error f => Outcome h user draft past (.error f)

theorem takeEmail_passes (hu : user = some u) (hd : draft = some d) (hfields : check d = .ok fields)
    (hq : Quiet past) :
    (takeEmail fields u).Passes (watch h user draft)
      (Step h user draft fun v => v = { u with
        email := fields.email <|> u.email
        emailVerified := u.emailVerified && (fields.email.isNone || u.email == fields.email) }) past := by
  unfold takeEmail
  cases hemail : fields.email with
  | none => exact ⟨hq, by simp⟩
  | some email =>
    by_cases hsame : u.email = some email
    · simp only [if_pos hsame]
      exact ⟨hq, by rw [hsame]; simp [← hsame]⟩
    · simp only [if_neg hsame]
      rw [Service.passes_bind, requireFree, Service.passes_bind, Service.passes_users]
      intro answer before after
      refine ⟨demanded hu hd hfields ⟨hemail, hsame⟩ hq.not_fails, ?_⟩
      have hnext : Quiet (past ++ [⟨.users (.getByEmail email), answer, before, after⟩]) :=
        hq.snoc fun w hw => by cases hw
      rcases answer with f | _ | v
      · exact .lookupFailed email f before after (List.mem_append_right _ List.mem_cons_self) hnext
      · exact ⟨hnext, by simp [hsame]⟩
      · exact .taken email v before after (List.mem_append_right _ List.mem_cons_self) hnext

theorem takePassword_passes (hu : user = some u) (hd : draft = some d) (hfields : check d = .ok fields)
    (v : User) (hq : Quiet past) :
    (takePassword h updateContext fields v).Passes (watch h user draft)
      (Step h user draft fun v' => ∃ hash, Hashed h fields.password hash ∧ v' = { v with
        password := if hash.isSome then none else v.password
        passwordHash := hash <|> v.passwordHash
        passwordSet := hash.isSome || v.passwordSet }) past := by
  unfold takePassword
  cases hpassword : fields.password with
  | none => exact ⟨hq, none, .absent, rfl⟩
  | some password =>
    show (setPassword h updateContext password v).Passes _ _ _
    rw [setPassword, Service.passes_bind, Service.passes_perform]
    intro salt before after
    refine ⟨demanded hu hd hfields trivial hq.not_fails, ?_⟩
    have hnext : Quiet (past ++ [⟨.salt, salt, before, after⟩]) := hq.snoc fun w hw => by cases hw
    simp only [Service.Onward, User.hashPassword]
    cases hhash : h.create salt password with
    | error e => exact .unhashed d fields password salt e hd hfields hpassword hhash hnext
    | ok hash => exact ⟨hnext, some hash, .made salt password hash hhash, rfl⟩

/-- Behind the save, an update comes back with the user, or signing out has failed. -/
def Settled (h : Hasher) (user : Option User) (draft : Option UserDraft) (x : Exchange Store)
    (past : List (Exchange Store)) : Except ServiceFailure α → Prop
  | .ok _ => TheSave past x
  | .error f => Outcome h user draft past (.error f)

/-- Each call of a sign-out is followed by the next, or it fails. -/
theorem sessions_passes (hu : user = some u) (hd : draft = some d) (hfields : check d = .ok fields)
    (call : SessionCall) (asks : Asks h fields u (.sessions call)) {before after : Store}
    (hsave : TheSave past ⟨.users (.save w), .ok saved, before, after⟩) :
    (Service.sessions updateContext call).Passes (watch h user draft)
      (Settled h user draft ⟨.users (.save w), .ok saved, before, after⟩) past := by
  rw [Service.passes_sessions]
  intro answer before' after'
  refine ⟨demanded hu hd hfields asks hsave.not_fails, ?_⟩
  have hnext := hsave.snoc (x := ⟨.sessions call, answer, before', after'⟩) fun w hw => by cases hw
  cases answer with
  | error f =>
    exact .signOutFailed call f before' after' (List.mem_append_right _ List.mem_cons_self) _ _ _ _ hnext
  | ok result => exact hnext

theorem deleteEach_passes (hu : user = some u) (hd : draft = some d) (hfields : check d = .ok fields)
    (hpassword : fields.password.isSome = true) (keep : Option Id) (l : List Session)
    {before after : Store} (hsave : TheSave past ⟨.users (.save w), .ok saved, before, after⟩) :
    (deleteEach updateContext keep l).Passes (watch h user draft)
      (Settled h user draft ⟨.users (.save w), .ok saved, before, after⟩) past := by
  induction l generalizing past with
  | nil => exact hsave
  | cons y l ih =>
    rw [deleteEach]
    by_cases hkeep : some y.id = keep
    · rw [if_pos hkeep]
      exact ih hsave
    · rw [if_neg hkeep, Service.passes_bind]
      refine (sessions_passes hu hd hfields (.delete y) hpassword hsave).mono ?_
      rintro past' (f | deleted) hsettled
      · exact hsettled
      · show Service.Passes _ _ (deleteEach updateContext keep l >>= _) _
        rw [Service.passes_bind]
        refine (ih hsettled).mono ?_
        rintro past'' (f | count) hsettled
        · exact hsettled
        · exact hsettled

theorem signOutOthers_passes (r : Request) (hu : user = some u) (hd : draft = some d)
    (hfields : check d = .ok fields) (hpassword : fields.password.isSome = true)
    (active : Option Session) {before after : Store}
    (hsave : TheSave past ⟨.users (.save w), .ok saved, before, after⟩) :
    (signOutOthers r saved active).Passes (watch h user draft)
      (Settled h user draft ⟨.users (.save w), .ok saved, before, after⟩) past := by
  rw [signOutOthers, Service.passes_bind, signOut, Service.passes_bind, Service.passes_perform]
  -- the clock, the list, the loop, and an entry in the log
  intro now before' after'
  refine ⟨demanded hu hd hfields trivial hsave.not_fails, ?_⟩
  have hclock := hsave.snoc (x := ⟨.clock, now, before', after'⟩) fun w hw => by cases hw
  show Service.Passes _ _ (Service.sessions updateContext (.listActive saved.id now) >>= _) _
  rw [Service.passes_bind]
  refine (sessions_passes hu hd hfields (.listActive saved.id now) hpassword hclock).mono ?_
  rintro past₁ (f | found) hsettled
  · exact hsettled
  refine (deleteEach_passes hu hd hfields hpassword _ found hsettled).mono ?_
  rintro past₂ (f | count) hsettled
  · exact hsettled
  intro logged before'' after''
  refine ⟨demanded hu hd hfields trivial hsettled.not_fails, ?_⟩
  exact hsettled.snoc fun w hw => by cases hw

/-- The save and what follows it. -/
theorem save_passes (r : Request) (hu : user = some u) (hd : draft = some d)
    (hfields : check d = .ok fields) (active : Option Session) (saves : Saves h fields u w)
    (hq : Quiet past) :
    (do
      let saved ← save w
      if fields.password.isSome then signOutOthers r saved active
      return saved : Service User).Passes (watch h user draft) (Outcome h user draft) past := by
  rw [Service.passes_bind, save, Service.passes_bind, Service.passes_perform]
  intro answer before after
  refine ⟨demanded hu hd hfields saves hq.not_fails, ?_⟩
  have hsave : TheSave (past ++ [⟨.users (.save w), answer, before, after⟩]) _ := hq.theSave
  rcases answer with f | saved
  · have hfailed : Outcome h user draft (past ++ [⟨.users (.save w), .error f, before, after⟩]) _ :=
      .saveFailed f _ hsave ⟨w, before, after, rfl⟩
    show Service.Passes _ _ (if f.isNotFound then _ else _) _
    unfold saveFailure at hfailed
    by_cases hnotFound : f.isNotFound = true
    · rw [if_pos hnotFound] at hfailed ⊢
      exact hfailed
    · rw [if_neg hnotFound] at hfailed ⊢
      exact hfailed
  · by_cases hpassword : fields.password.isSome = true
    · simp only [if_pos hpassword]
      show Service.Passes _ _ (signOutOthers r saved active >>= _) _
      rw [Service.passes_bind]
      refine (signOutOthers_passes r hu hd hfields hpassword active hsave).mono ?_
      rintro past' (f | ⟨⟩) hsettled
      · exact hsettled
      · exact .done w saved before after hsettled
    · simp only [if_neg hpassword]
      exact .done w saved before after hsave

end Parts

end Update

/-! ### A new password -/

section NewPassword

variable {h : Hasher} {o : Surroundings} {S : Store} {fields : Fields} {u : User}

/-- What comes of hashing a new password, if there is one. -/
inductive NewHash (h : Hasher) (salt : Credential.Salt) :
    Option String → Except Credential.CredentialError (Option String) → Prop where
  | absent : NewHash h salt none (.ok none)
  | made {password hash : String} (create : h.create salt password = .ok hash) :
      NewHash h salt (some password) (.ok (some hash))
  | refused {password : String} {e : Credential.CredentialError}
      (create : h.create salt password = .error e) :
      NewHash h salt (some password) (.error e)

theorem NewHash.exists_refused {salt : Credential.Salt} {password : Option String}
    {e : Credential.CredentialError} (new : NewHash h salt password (.error e)) :
    ∃ secret, password = some secret ∧ h.create salt secret = .error e := by
  cases new with
  | refused create => exact ⟨_, rfl, create⟩

theorem exists_newHash (h : Hasher) (salt : Credential.Salt) (password : Option String) :
    ∃ result, NewHash h salt password result := by
  cases password with
  | none => exact ⟨_, .absent⟩
  | some password =>
    cases hcreate : h.create salt password with
    | ok hash => exact ⟨_, .made hcreate⟩
    | error e => exact ⟨_, .refused hcreate⟩

/-- The password of a checked draft has passed its rule, so only its length can be in the way of hashing
    it. -/
theorem NewHash.too_long (reliable : h.Reliable) {d : UserDraft} (hd : check d = .ok fields)
    {salt : Credential.Salt} {e : Credential.CredentialError} (new : NewHash h salt d.password (.error e)) :
    ∃ password, d.password = some password ∧ Credential.secretLimit < password.utf8ByteSize := by
  obtain ⟨password, hpassword, create⟩ := new.exists_refused
  refine ⟨password, hpassword, ?_⟩
  rw [← Nat.not_le]
  intro hle
  obtain ⟨hash, hhash⟩ := reliable.creates salt password (password_ne_empty hd hpassword) hle
  rw [create] at hhash
  cases hhash

/-- A password that can be hashed is put in as its hash. -/
theorem runOn_takePassword {result : Except Credential.CredentialError (Option String)}
    (new : NewHash h (o .salt) fields.password result) (context : String) :
    (takePassword h context fields u).runOn o S
      = ((result.mapError (.credential context)).map fun hash => { u with
        password := if hash.isSome then none else u.password
        passwordHash := hash <|> u.passwordHash
        passwordSet := hash.isSome || u.passwordSet }, S) := by
  unfold takePassword
  generalize fields.password = password at new
  cases new with
  | absent => rfl
  | made create =>
    show (setPassword h context _ u).runOn o S = _
    rw [setPassword, Service.runOn_bind, Service.runOn_salt, Service.goOn_ok]
    simp only [User.hashPassword, create]
    rfl
  | refused create =>
    show (setPassword h context _ u).runOn o S = _
    rw [setPassword, Service.runOn_bind, Service.runOn_salt, Service.goOn_ok]
    simp only [User.hashPassword, create]
    rfl

end NewPassword

/-! ### The whole update -/

/-- **The protocol of an update.** Whatever it is answered, an update asks only for what belongs to the
    record that it was given and to its checked draft, and comes back as `Update.Outcome` says. -/
theorem update_passes (h : Hasher) (r : Request) (user : Option User) (active : Option Session)
    (draft : Option UserDraft) :
    (update h r user active draft).Passes (Update.watch h user draft) (Update.Outcome h user draft) [] := by
  have hnone : Update.Quiet [] := fun y hy => nomatch hy
  cases hu : user with
  | none => exact .invalid _ (fun _ _ _ h => nomatch h) hnone
  | some u =>
    cases hd : draft with
    | none => exact .invalid _ (fun _ _ _ _ h => nomatch h) hnone
    | some d =>
      show Service.Passes _ _ (Service.checked (check d) >>= _) _
      rw [Service.passes_bind]
      cases hfields : check d with
      | error rejection =>
        refine .invalid rejection ?_ hnone
        rintro _ _ fields ⟨⟩ ⟨⟩ hok
        rw [hfields] at hok
        cases hok
      | ok fields =>
        -- the address, the password, the names, the save
        show Service.Passes _ _ (takeEmail fields u >>= _) _
        rw [Service.passes_bind]
        refine (Update.takeEmail_passes (h := h) rfl rfl hfields hnone).mono ?_
        rintro past (f | u₁) hstep
        · exact hstep
        obtain ⟨hq, rfl⟩ := hstep
        show Service.Passes _ _ (takePassword h updateContext fields _ >>= _) _
        rw [Service.passes_bind]
        refine (Update.takePassword_passes rfl rfl hfields _ hq).mono ?_
        rintro past (f | u₂) hstep
        · exact hstep
        obtain ⟨hq, hash, hhashed, rfl⟩ := hstep
        exact Update.save_passes r rfl rfl hfields active ⟨hash, hhashed, rfl⟩ hq

/-! ### The course of an update -/

/-- What an update has exchanged and come back with: it has failed without a save, or there is one save
    between plain questions, and if it has succeeded it gives what was saved. -/
inductive Update.Course (h : Hasher) (user : Option User) (draft : Option UserDraft)
    (result : Except ServiceFailure User) : List (Exchange Store) → Prop where
  | unsaved {xs : List (Exchange Store)} (failed : ∀ v, result ≠ .ok v) (plain : ∀ x ∈ xs, x.effect.Plain) :
      Course h user draft result xs
  | saved {ys zs : List (Exchange Store)} (u w : User) (d : UserDraft) (fields : Fields)
      (answer : Except RepositoryFailure User) (before after : Store) (hu : user = some u)
      (hd : draft = some d)
      (hfields : check d = .ok fields) (saves : Saves h fields u w) (plainBefore : ∀ y ∈ ys, y.effect.Plain)
      (plainAfter : ∀ z ∈ zs, z.effect.Plain) (settled : ∀ v, result = .ok v → answer = .ok v) :
      Course h user draft result (ys ++ ⟨.users (.save w), answer, before, after⟩ :: zs)

section Course

variable {h : Hasher} {r : Request} {user : Option User} {active : Option Session} {draft : Option UserDraft}
  {w saved : User} {fields : Fields} {result : Except ServiceFailure User} {xs : List (Exchange Store)}

/-- A save is one exchange; it succeeds if it was answered with a user. -/
theorem save_leads (hsave : (save w).run.Leads xs (.done result)) :
    ∃ answer before after, xs = [⟨.users (.save w), answer, before, after⟩] ∧
      ∀ v, result = .ok v → answer = .ok v := by
  rw [save] at hsave
  rcases Service.leads_bind.1 hsave with ⟨f, hasked, -⟩ | ⟨ys, zs, answer, rfl, hasked, htold⟩
  · -- asking by itself does not fail
    obtain ⟨_, _, _, _, -, hdone⟩ := Program.leads_ask_done.1 hasked
    cases (Program.leads_done.1 hdone).2
  obtain ⟨before, after, rfl⟩ := Service.leads_perform.1 hasked
  rcases answer with f | v
  · have hthrown : ∃ failure, (throw failure : Service User).run.Leads zs (.done result) := by
      by_cases hnotFound : f.isNotFound = true
      · simp only [if_pos hnotFound] at htold
        exact ⟨_, htold⟩
      · simp only [if_neg hnotFound] at htold
        exact ⟨_, htold⟩
    obtain ⟨failure, hthrown⟩ := hthrown
    obtain ⟨rfl, hfailed⟩ := Program.leads_done.1 hthrown
    refine ⟨_, before, after, rfl, ?_⟩
    rintro v rfl
    cases hfailed
  · obtain ⟨rfl, hdone⟩ := Program.leads_done.1 htold
    refine ⟨_, before, after, rfl, ?_⟩
    rintro v' rfl
    cases hdone
    rfl

/-- What follows the save gives what was saved, if it does not fail. -/
theorem settle_leads (hsettle : (do
      if fields.password.isSome then signOutOthers r saved active
      return saved : Service User).run.Leads xs (.done result)) :
    (∀ x ∈ xs, x.effect.Plain) ∧ ∀ v, result = .ok v → v = saved := by
  by_cases hpassword : fields.password.isSome = true
  · simp only [if_pos hpassword] at hsettle
    obtain ⟨out, hout, rfl⟩ := Service.leads_map.1 hsettle
    refine ⟨(signOutOthers_asks (fun _ plain => plain) saved active).program.of_leads hout, fun v hv => ?_⟩
    cases out <;> cases hv
    rfl
  · simp only [if_neg hpassword] at hsettle
    obtain ⟨rfl, hdone⟩ := Program.leads_done.1 hsettle
    refine ⟨(fun _ hx => nomatch hx), ?_⟩
    rintro v rfl
    cases hdone
    rfl

/-- Plain questions and a failure are the course of an update. -/
theorem Update.course_of_failed {ys zs : List (Exchange Store)} (f : ServiceFailure)
    (hys : ∀ y ∈ ys, y.effect.Plain) (hzs : ∀ z ∈ zs, z.effect.Plain) :
    Update.Course h user draft (.error f) (ys ++ zs) := by
  refine .unsaved (fun _ hok => nomatch hok) fun x hx => ?_
  rcases List.mem_append.1 hx with hx | hx
  · exact hys x hx
  · exact hzs x hx

/-- **Each update takes such a course.** -/
theorem update_course (hupdate : (update h r user active draft).run.Leads xs (.done result)) :
    Update.Course h user draft result xs := by
  have plain (e : Effect) (he : e.Plain) : e.Plain := he
  have none : ∀ y ∈ ([] : List (Exchange Store)), y.effect.Plain := fun _ hy => nomatch hy
  rcases Service.leads_bind.1 hupdate with ⟨f, hfailed, rfl⟩ | ⟨_, _, u, rfl, huser, hrest₁⟩
  · exact Update.course_of_failed f none ((Service.asks_orReject _ user).program.of_leads hfailed)
  obtain ⟨rfl, hu⟩ := Service.leads_orReject.1 huser
  rcases Service.leads_bind.1 hrest₁ with ⟨f, hfailed, rfl⟩ | ⟨_, _, d, rfl, hdraft, hrest₂⟩
  · exact Update.course_of_failed f none ((Service.asks_orReject _ draft).program.of_leads hfailed)
  obtain ⟨rfl, hd⟩ := Service.leads_orReject.1 hdraft
  rcases Service.leads_bind.1 hrest₂ with ⟨f, hfailed, rfl⟩ | ⟨_, _, fields, rfl, hchecked, hrest₃⟩
  · exact Update.course_of_failed f none ((Service.asks_checked (check d)).program.of_leads hfailed)
  obtain ⟨rfl, hfields⟩ := Service.leads_checked.1 hchecked
  simp only [List.nil_append]
  -- the address and the password are put into the record, with plain questions
  have hquiet : Update.Quiet [] := fun _ hy => nomatch hy
  rcases Service.leads_bind.1 hrest₃ with ⟨f, hfailed, rfl⟩ | ⟨ys₁, _, u₁, rfl, hemail, hrest₄⟩
  · exact Update.course_of_failed f none ((takeEmail_asks plain fields u).program.of_leads hfailed)
  have hplain₁ := (takeEmail_asks plain fields u).program.of_leads hemail
  obtain ⟨hquiet₁, rfl⟩ := (Update.takeEmail_passes (h := h) hu hd hfields hquiet).of_leads hemail
  rcases Service.leads_bind.1 hrest₄ with ⟨f, hfailed, rfl⟩ | ⟨ys₂, _, u₂, rfl, hpassword, hrest₅⟩
  · exact Update.course_of_failed f hplain₁ ((takePassword_asks plain _ fields _).program.of_leads hfailed)
  have hplain₂ := (takePassword_asks plain _ fields _).program.of_leads hpassword
  obtain ⟨-, hash, hhashed, rfl⟩ := (Update.takePassword_passes hu hd hfields _ hquiet₁).of_leads hpassword
  have hplain : ∀ y ∈ ys₁ ++ ys₂, y.effect.Plain := by
    intro y hy
    rcases List.mem_append.1 hy with hy | hy
    · exact hplain₁ y hy
    · exact hplain₂ y hy
  rw [← List.append_assoc]
  -- the save, and what follows it
  rcases Service.leads_bind.1 hrest₅ with ⟨f, hsave, rfl⟩ | ⟨_, zs, saved, rfl, hsave, hsettle⟩
  · obtain ⟨answer, before, after, rfl, hanswer⟩ := save_leads hsave
    exact .saved u _ d fields answer before after hu hd hfields ⟨hash, hhashed, rfl⟩ hplain none
      fun _ hok => nomatch hok
  · obtain ⟨answer, before, after, rfl, hanswer⟩ := save_leads hsave
    obtain ⟨hplain₃, hsaved⟩ := settle_leads hsettle
    refine .saved u _ d fields answer before after hu hd hfields ⟨hash, hhashed, rfl⟩ hplain hplain₃ ?_
    intro v hv
    rw [hsaved v hv]
    exact hanswer saved rfl

end Course

/-! ### Among others -/

namespace Update

section Task

variable {h : Hasher} {T : Trace Store} {c : Crowd Store (Request × Job) (Except ServiceFailure Value)}
  {i : Nat} {r : Request} {user : Option User} {active : Option Session} {draft : Option UserDraft}
  {x : Exchange Store}

theorem job_passes (h : Hasher) (r : Request) (user : Option User) (active : Option Session)
    (draft : Option UserDraft) :
    ((service h).program (r, .update user active draft)).Passes (watch h user draft)
      (fun past value => ∃ result, value = result.map Value.user ∧
        Outcome h user draft past result) [] := by
  show Service.Passes _ _ (update h r user active draft >>= fun u => pure (Value.user u)) _
  rw [Service.passes_map]
  exact (update_passes h r user active draft).mono fun past result houtcome => ⟨result, rfl, houtcome⟩

/-- What an update that is over has been through. -/
theorem outcome_of_finished (run : (service h).Run .nobody T c) {value : Except ServiceFailure Value}
    (hi : c.Finished i (r, .update user active draft) value) :
    ∃ result, value = result.map Value.user ∧ Outcome h user draft (T.own i) result := by
  have hresult := Service.result_of_finished run hi rfl (update_passes h r user active draft)
  rwa [watch, Trace.noted_history] at hresult

/-- Each question of an update belongs to its record and its checked draft. -/
theorem asks_of_mem (run : (service h).Run .nobody T c)
    (hi : c.job? i = some (r, .update user active draft)) (hx : (i, x) ∈ T) :
    ∃ u d fields, user = some u ∧ draft = some d ∧ check d = .ok fields ∧ Asks h fields u x.effect := by
  obtain ⟨_, _, _, -, hasks⟩ := run.demands hi (job_passes h r user active draft) hx
  exact hasks

/-- Behind a save that failed nothing is asked: the update is over. -/
theorem finished_of_fails (run : (service h).Run .nobody T c)
    (hi : c.job? i = some (r, .update user active draft)) (hx : (i, x) ∈ T) {f : RepositoryFailure}
    (hf : Fails x f) : c.Finished i (r, .update user active draft) (.error (saveFailure f)) := by
  obtain ⟨⟨job, rest⟩, htask, hjob⟩ := Option.map_eq_some_iff.1 hi
  obtain rfl : job = (r, .update user active draft) := hjob
  have hrest := run.passes htask (job_passes h r user active draft)
  rw [watch, Trace.noted_history] at hrest
  have hown : x ∈ T.own i := Trace.mem_own.2 hx
  cases rest with
  | ask e next =>
    -- behind a failed save, the watch demands that nothing more is asked
    exact absurd hf ((hrest (Surroundings.calm .epoch e) .empty .empty).1.1 x hown f)
  | done value =>
    obtain ⟨result, rfl, houtcome⟩ := hrest
    obtain ⟨w, before, after, rfl⟩ := hf
    cases houtcome with
    | invalid _ _ quiet | taken _ _ _ _ _ quiet | lookupFailed _ _ _ _ _ quiet
      | unhashed _ _ _ _ _ _ _ _ _ quiet =>
      -- there would have been no save
      exact absurd rfl (quiet _ hown w)
    | signOutFailed _ _ _ _ _ _ _ _ _ save | done _ _ _ _ save =>
      -- the only save would have succeeded
      exact absurd ⟨w, before, after, rfl⟩ (save.not_fails _ hown f)
    | saveFailed _ _ save failed =>
      obtain rfl := save.2 _ hown w rfl
      obtain ⟨_, _, _, heq⟩ := failed
      cases heq
      exact htask

end Task

end Update

end Turnstile.Accounts
