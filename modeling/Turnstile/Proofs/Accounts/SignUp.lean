import Turnstile.Proofs.Accounts.Draft
import Turnstile.Proofs.Service.Jobs

namespace Turnstile.Accounts

open Credential (Hasher)

/-!
# The protocol of a sign-up

What one sign-up does on its own, whatever it is answered.

* `SignUp.watch` demands that nothing is asked but what belongs to the checked draft: a lookup of its
  address, then one insertion of a user with that address, and nothing behind an insertion that failed.
* `SignUp.Outcome` lists what a sign-up can come back with, each with what it was answered on the way.
* `signUp_passes` is the proof that the program keeps to this.
-/

namespace SignUp

variable {h : Hasher} {fields : Fields} {past : List (Exchange Store)}

/-- The exchange is an insertion that succeeded, with the user as inserted. -/
def Inserts (x : Exchange Store) (u : User) : Prop :=
  ∃ v before after, x = ⟨.users (.create v), .ok u, before, after⟩

/-- The exchange is an insertion that failed. -/
def Fails (x : Exchange Store) (f : RepositoryFailure) : Prop :=
  ∃ v before after, x = ⟨.users (.create v), .error f, before, after⟩

/-- What belongs to a checked draft. -/
def Asks (fields : Fields) : Effect → Prop
  | .users (.getByEmail email) => fields.email = some email
  | .users (.create v) => v.email = fields.email ∧ v.isLive = true
  | .users _ | .sessions _ => False
  | _ => True

/-- The watch over a sign-up. -/
def watch (draft : Option UserDraft) : Watch Store (List (Exchange Store)) :=
  .history fun past x => (∀ y ∈ past, ∀ f, ¬ Fails y f) ∧
    ∃ d fields, draft = some d ∧ check d = .ok fields ∧ Asks fields x.effect

/-- No insertion has been tried. -/
def Quiet (past : List (Exchange Store)) : Prop := ∀ y ∈ past, ∀ v, y.effect ≠ .users (.create v)

/-- No insertion has failed, and one has succeeded. -/
def Entered (past : List (Exchange Store)) (u : User) : Prop :=
  (∀ y ∈ past, ∀ f, ¬ Fails y f) ∧ ∃ x ∈ past, Inserts x u

/-- What a sign-up can come back with. -/
inductive Outcome (h : Hasher) (draft : Option UserDraft) (past : List (Exchange Store)) :
    Except ServiceFailure User → Prop where
  /-- Nothing to check, or something in it is wrong. -/
  | invalid (rejection : Rejection) (fault : ∀ d fields, draft = some d → check d ≠ .ok fields)
      (other : rejection ≠ .userEmailExists) : Outcome h draft past (.error (.rejected rejection))
  /-- Somebody has the address. -/
  | taken (d : UserDraft) (fields : Fields) (email : String) (u : User) (before after : Store)
      (hd : draft = some d) (hfields : check d = .ok fields) (hemail : fields.email = some email)
      (found : ⟨.users (.getByEmail email), .ok (some u), before, after⟩ ∈ past)
      (quiet : Quiet past) : Outcome h draft past (.error (.rejected .userEmailExists))
  /-- The password could not be hashed. -/
  | unhashed (d : UserDraft) (fields : Fields) (password : String) (salt : Credential.Salt)
      (e : Credential.CredentialError) (hd : draft = some d) (hfields : check d = .ok fields)
      (hpassword : fields.password = some password) (refused : h.create salt password = .error e)
      (quiet : Quiet past) : Outcome h draft past (.error (.credential createContext e))
  /-- The lookup of the address failed. -/
  | lookupFailed (email : String) (f : RepositoryFailure) (before after : Store)
      (answer : ⟨.users (.getByEmail email), .error f, before, after⟩ ∈ past)
      (quiet : Quiet past) : Outcome h draft past (.error (.repository createContext f))
  /-- The insertion, the only one, failed. -/
  | insertFailed (f : RepositoryFailure) (x : Exchange Store) (hx : x ∈ past) (failed : Fails x f)
      (only : ∀ y ∈ past, ∀ v, y.effect = .users (.create v) → y = x) :
      Outcome h draft past (.error (.repository createContext f))
  /-- The user is in. -/
  | done (u : User) (entered : Entered past u) : Outcome h draft past (.ok u)

end SignUp

/-! ### The parts of a sign-up -/

namespace SignUp

section Parts

variable {h : Hasher} {draft : Option UserDraft} {d : UserDraft} {fields : Fields}
  {past : List (Exchange Store)} {x : Exchange Store}

theorem Quiet.not_fails (hq : Quiet past) : ∀ y ∈ past, ∀ f, ¬ Fails y f := by
  rintro y hy f ⟨v, before, after, rfl⟩
  exact hq _ hy v rfl

theorem Quiet.snoc (hq : Quiet past) (hx : ∀ v, x.effect ≠ .users (.create v)) :
    Quiet (past ++ [x]) := by
  intro y hy
  rcases List.mem_append.1 hy with hy | hy
  · exact hq y hy
  · obtain rfl := List.mem_singleton.1 hy
    exact hx

/-- The demands on a question that belongs to the draft, as long as no insertion has failed. -/
theorem demanded (hd : draft = some d) (hfields : check d = .ok fields) {e : Effect}
    {answer : e.Answer} {before after : Store} (asks : Asks fields e)
    (hpast : ∀ y ∈ past, ∀ f, ¬ Fails y f) :
    (watch draft).demands past ⟨e, answer, before, after⟩ :=
  ⟨hpast, d, fields, hd, hfields, asks⟩

/-- A step behind which a sign-up goes on only if it has not tried to insert yet. -/
def Step (h : Hasher) (draft : Option UserDraft) (P : α → Prop) (past : List (Exchange Store)) :
    Except ServiceFailure α → Prop
  | .ok value => Quiet past ∧ P value
  | .error f => Outcome h draft past (.error f)

theorem takeNewEmail_passes (hd : draft = some d) (hfields : check d = .ok fields)
    (hq : Quiet past) :
    (takeNewEmail fields).Passes (watch draft) (Step h draft fun _ => True) past := by
  unfold takeNewEmail
  cases hemail : fields.email with
  | none => exact ⟨hq, trivial⟩
  | some email =>
    show (requireFree createContext email).Passes _ _ _
    rw [requireFree, Service.passes_bind, Service.passes_users]
    intro answer before after
    refine ⟨demanded hd hfields hemail hq.not_fails, ?_⟩
    have hnext : Quiet (past ++ [⟨.users (.getByEmail email), answer, before, after⟩]) :=
      hq.snoc fun v hv => by cases hv
    rcases answer with f | u | _
    · exact .lookupFailed email f before after (List.mem_append_right _ List.mem_cons_self) hnext
    · exact ⟨hnext, trivial⟩
    · exact .taken d fields email _ before after hd hfields hemail
        (List.mem_append_right _ List.mem_cons_self) hnext

theorem takePassword_passes (hd : draft = some d) (hfields : check d = .ok fields) (u : User)
    (hq : Quiet past) :
    (takePassword h createContext fields u).Passes (watch draft)
      (Step h draft fun u' => u'.email = u.email ∧ u'.deletedAt = u.deletedAt) past := by
  unfold takePassword
  cases hpassword : fields.password with
  | none => exact ⟨hq, rfl, rfl⟩
  | some password =>
    show (setPassword h createContext password u).Passes _ _ _
    rw [setPassword, Service.passes_bind, Service.passes_perform]
    intro salt before after
    refine ⟨demanded hd hfields trivial hq.not_fails, ?_⟩
    have hnext : Quiet (past ++ [⟨.salt, salt, before, after⟩]) := hq.snoc fun v hv => by cases hv
    simp only [Service.Onward, User.hashPassword]
    cases hhash : h.create salt password with
    | error e => exact .unhashed d fields password salt e hd hfields hpassword hhash hnext
    | ok hash => exact ⟨hnext, rfl, rfl⟩

/-- Operators are told of a user who is in: a log entry, or another question that is not an insertion,
    changes nothing about that. -/
theorem Entered.snoc {u : User} (hp : Entered past u) (hx : ∀ v, x.effect ≠ .users (.create v)) :
    Entered (past ++ [x]) u := by
  obtain ⟨hpast, y, hy, hu⟩ := hp
  refine ⟨?_, y, List.mem_append_left _ hy, hu⟩
  intro z hz
  rcases List.mem_append.1 hz with hz | hz
  · exact hpast z hz
  · obtain rfl := List.mem_singleton.1 hz
    rintro f ⟨v, before, after, rfl⟩
    exact hx v rfl

theorem log_passes (r : Request) (level : Level) (message : String) (entry : List (String × Json))
    (hd : draft = some d) (hfields : check d = .ok fields) {u : User} (hp : Entered past u) :
    (Service.log r level message entry).Passes (watch draft)
      (fun past' result => result = .ok () ∧ Entered past' u) past := by
  intro answer before after
  exact ⟨demanded hd hfields trivial hp.1, rfl, hp.snoc fun v hv => by cases hv⟩

theorem announce_passes (r : Request) (hd : draft = some d) (hfields : check d = .ok fields)
    {u v : User} (hp : Entered past v) :
    (announce r u).Passes (watch draft)
      (fun past' result => result = .ok () ∧ Entered past' v) past := by
  rw [announce, Service.passes_bind, Service.passes_perform]
  intro delivery before after
  refine ⟨demanded hd hfields trivial hp.1, ?_⟩
  have hnext : Entered (past ++ [⟨.notify (.event r newUserTitle (u.email.getD "")), delivery, before,
    after⟩]) v := hp.snoc fun v hv => by cases hv
  rcases delivery with fault | ⟨⟩
  · exact log_passes r _ _ _ hd hfields hnext
  · exact ⟨rfl, hnext⟩

/-- The insertion and what follows it. -/
theorem insert_passes (r : Request) (hd : draft = some d) (hfields : check d = .ok fields)
    {u : User} (hemail : u.email = fields.email) (live : u.isLive = true) (hq : Quiet past) :
    (do
      let u ← Service.users createContext (.create u)
      Service.log r .info "User created" [userField u.id]
      announce r u
      return u : Service User).Passes (watch draft) (Outcome h draft) past := by
  rw [Service.passes_bind, Service.passes_users]
  intro answer before after
  refine ⟨demanded hd hfields ⟨hemail, live⟩ hq.not_fails, ?_⟩
  rcases answer with f | v
  · -- nothing was inserted before, so this insertion is the only one
    refine .insertFailed f _ (List.mem_append_right _ List.mem_cons_self) ⟨u, before, after, rfl⟩ ?_
    intro y hy v hv
    rcases List.mem_append.1 hy with hy | hy
    · exact absurd hv (hq y hy v)
    · exact List.mem_singleton.1 hy
  · -- the user is in; what follows only tells of it
    have hentered : Entered (past ++ [⟨.users (.create u), .ok v, before, after⟩]) v := by
      refine ⟨?_, _, List.mem_append_right _ List.mem_cons_self, u, before, after, rfl⟩
      intro x hx
      rcases List.mem_append.1 hx with hx | hx
      · exact hq.not_fails x hx
      · obtain rfl := List.mem_singleton.1 hx
        rintro f ⟨w, before', after', heq⟩
        cases heq
    -- the entry in the log, then the event
    show Service.Passes _ _ (Service.log _ _ _ _ >>= _) _
    rw [Service.passes_bind]
    refine (log_passes r _ _ _ hd hfields hentered).mono ?_
    rintro past' result ⟨rfl, hentered⟩
    show Service.Passes _ _ (announce r v >>= _) _
    rw [Service.passes_bind]
    refine (announce_passes r hd hfields hentered).mono ?_
    rintro past' result ⟨rfl, hentered⟩
    exact .done v hentered

end Parts

end SignUp

/-- What a sign-up does with a checked draft. -/
def enter (h : Hasher) (r : Request) (fields : Fields) : Service User := do
  takeNewEmail fields
  let u ← takePassword h createContext fields { User.new with email := fields.email }
  let u ← Service.users createContext
    (.create { u with givenNames := fields.givenNames, surname := fields.surname })
  Service.log r .info "User created" [userField u.id]
  announce r u
  return u

theorem create_of_check {d : UserDraft} {fields : Fields} (hfields : check d = .ok fields)
    (h : Hasher) (r : Request) : create h r (some d) = enter h r fields := by
  unfold create
  show (Service.checked (check d) >>= _) = _
  rw [hfields]
  rfl

/-- **The protocol of a sign-up.** Whatever it is answered, a sign-up asks only for what belongs to its
    checked draft, and comes back as `SignUp.Outcome` says. -/
theorem signUp_passes (h : Hasher) (r : Request) (draft : Option UserDraft) :
    (create h r draft).Passes (SignUp.watch draft) (SignUp.Outcome h draft) [] := by
  cases hd : draft with
  | none =>
    refine .invalid _ ?_ (by decide)
    rintro d fields ⟨⟩
  | some d =>
    cases hfields : check d with
    | error rejection =>
      rw [create, Service.passes_bind]
      show Service.Passes _ _ (Service.checked (check d) >>= _) _
      rw [Service.passes_bind, hfields]
      refine .invalid rejection ?_ ?_
      · rintro _ fields ⟨⟩ hok
        rw [hfields] at hok
        cases hok
      · rintro rfl
        exact check_ne_userEmailExists d hfields
    | ok fields =>
      rw [create_of_check hfields, enter, Service.passes_bind]
      have hnone : SignUp.Quiet [] := fun y hy => nomatch hy
      refine (SignUp.takeNewEmail_passes (h := h) rfl hfields hnone).mono ?_
      rintro past (f | ⟨⟩) hstep
      · exact hstep
      · show Service.Passes _ _ (takePassword h createContext fields _ >>= _) _
        rw [Service.passes_bind]
        refine (SignUp.takePassword_passes rfl hfields _ hstep.1).mono ?_
        rintro past (f | u) hstep
        · exact hstep
        · obtain ⟨hq, hemail, hlive⟩ := hstep
          have live : u.isLive = true := by
            rw [User.isLive, hlive]
            rfl
          exact SignUp.insert_passes r rfl hfields (u := { u with givenNames := _, surname := _ })
            hemail live hq

end Turnstile.Accounts
