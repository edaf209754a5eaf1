import Turnstile.Proofs.Leads
import Turnstile.Proofs.Service.Jobs

namespace Turnstile

open Credential (Hasher)

/-!
# What operations ask for

The questions that an operation may come to ask, whatever it is answered.

* `Effect.Plain` lists those that every operation may ask: to look rows up, to mark sessions as deleted, for
  the clock, for what is drawn at random, and to make entries in the log.
* `Service.Asks` is `Program.Asks` for operations that can fail, with a rule for each of their parts.
* `job_asks`: beyond plain questions, only a sign-up inserts users and tells operators of them, only an
  update saves users, only a deletion deletes the user that it was given, and only a sign-in opens
  sessions.
-/

/-- Looking rows up, marking sessions as deleted, the clock, what is drawn at random, and entries in the
    log. -/
def Effect.Plain : Effect → Prop
  | .users (.create _) | .users (.save _) | .users (.delete _) | .sessions (.create _) => False
  | .users _ | .sessions _ | .clock | .salt | .draw | .log _ => True
  | .begin | .arm .. | .claim .. | .disarm | .backend _ | .notify _ | .alert .. => False

namespace Service

variable {α β : Type} {P : Effect → Prop}

/-- All questions of the operation have a property, whatever it is answered. -/
structure Asks (P : Effect → Prop) (m : Service α) : Prop where
  program : m.run.Asks P

variable {m : Service α} {f : α → Service β}

theorem Asks.bind (hm : m.Asks P) (hf : ∀ a, (f a).Asks P) : (m >>= f).Asks P := by
  refine ⟨Program.Asks.bind hm.program fun result => ?_⟩
  cases result with
  | error failure => exact trivial
  | ok a => exact (hf a).program

theorem asks_pure (a : α) : Asks P (pure a : Service α) := ⟨trivial⟩

theorem asks_throw (failure : ServiceFailure) : Asks P (throw failure : Service α) := ⟨trivial⟩

/-- A failure is the end. -/
theorem asks_throw_bind (failure : ServiceFailure) (f : α → Service β) :
    (throw failure >>= f).Asks P := ⟨trivial⟩

theorem asks_perform {e : Effect} (h : P e) : (perform e).Asks P :=
  ⟨h, fun _ => trivial⟩

theorem asks_checked (result : Except Rejection α) : (checked result).Asks P := by
  cases result <;> exact ⟨trivial⟩

theorem asks_orReject (r : Rejection) (value : Option α) : (orReject r value).Asks P := by
  cases value <;> exact ⟨trivial⟩

theorem asks_credential (context : String) (result : Except Credential.CredentialError α) :
    (credential context result).Asks P := by
  cases result <;> exact ⟨trivial⟩

theorem asks_users {context : String} {call : UserCall} (h : P (.users call)) :
    (users context call).Asks P := by
  refine (asks_perform h).bind fun answer => ?_
  cases answer <;> exact ⟨trivial⟩

theorem asks_sessions {context : String} {call : SessionCall} (h : P (.sessions call)) :
    (sessions context call).Asks P := by
  refine (asks_perform h).bind fun answer => ?_
  cases answer <;> exact ⟨trivial⟩

end Service

open Service

/-! ### The operations -/

variable {h : Hasher} {r : Request} {P : Effect → Prop} (plain : ∀ e, e.Plain → P e)

include plain

theorem log_asks (level : Level) (message : String) (fields : List (String × Json)) :
    (Service.log r level message fields).Asks P := asks_perform (plain (.log _) trivial)

namespace Accounts

theorem signOut_asks (context : String) (userId : Id) (keep : Option Id) :
    (signOut context userId keep).Asks P := by
  have hloop (l : List Session) : (deleteEach context keep l).Asks P := by
    induction l with
    | nil => exact asks_pure 0
    | cons y l ih =>
      rw [deleteEach]
      by_cases hkeep : some y.id = keep
      · rw [if_pos hkeep]
        exact ih
      · rw [if_neg hkeep]
        refine (asks_sessions (plain (.sessions (.delete y)) trivial)).bind fun _ => ?_
        exact ih.bind fun _ => asks_pure _
  refine (asks_perform (plain .clock trivial)).bind fun now => ?_
  exact (asks_sessions (plain (.sessions (.listActive userId now)) trivial)).bind fun found => hloop found

theorem requireFree_asks (context email : String) : (requireFree context email).Asks P := by
  refine (asks_users (plain (.users (.getByEmail email)) trivial)).bind fun found => ?_
  cases found <;> exact ⟨trivial⟩

theorem takePassword_asks (context : String) (fields : Fields) (u : User) :
    (takePassword h context fields u).Asks P := by
  unfold takePassword
  cases fields.password with
  | none => exact asks_pure u
  | some password =>
    refine (asks_perform (plain .salt trivial)).bind fun salt => ?_
    exact (asks_credential _ _).bind fun _ => asks_pure _

theorem takeNewEmail_asks (fields : Fields) : (takeNewEmail fields).Asks P := by
  unfold takeNewEmail
  cases fields.email with
  | none => exact asks_pure ()
  | some email => exact requireFree_asks plain _ _

theorem takeEmail_asks (fields : Fields) (u : User) : (takeEmail fields u).Asks P := by
  unfold takeEmail
  cases fields.email with
  | none => exact asks_pure u
  | some email =>
    by_cases hsame : u.email = some email
    · simp only [if_pos hsame]
      exact asks_pure u
    · simp only [if_neg hsame]
      exact (requireFree_asks plain _ _).bind fun _ => asks_pure _

theorem announce_asks (tells : ∀ text, P (.notify (.event r newUserTitle text))) (u : User) :
    (announce r u).Asks P := by
  refine (asks_perform (tells (u.email.getD ""))).bind fun delivery => ?_
  cases delivery with
  | error fault => exact log_asks plain _ _ _
  | ok => exact asks_pure ()

theorem create_asks (inserts : ∀ u, P (.users (.create u)))
    (tells : ∀ text, P (.notify (.event r newUserTitle text))) (draft : Option UserDraft) :
    (create h r draft).Asks P := by
  refine (asks_orReject _ draft).bind fun d => (asks_checked (check d)).bind fun fields => ?_
  refine (takeNewEmail_asks plain fields).bind fun _ => ?_
  refine (takePassword_asks plain _ fields _).bind fun u => ?_
  refine (asks_users (inserts _)).bind fun u => (log_asks plain _ _ _).bind fun _ => ?_
  exact (announce_asks plain tells u).bind fun _ => asks_pure u

omit plain in
theorem save_asks {u : User} (h : P (.users (.save u))) : (save u).Asks P := by
  refine (asks_perform h).bind fun answer => ?_
  rcases answer with f | saved
  · by_cases hnotFound : f.isNotFound = true
    · simp only [if_pos hnotFound]
      exact asks_throw _
    · simp only [if_neg hnotFound]
      exact asks_throw _
  · exact asks_pure saved

theorem signOutOthers_asks (u : User) (active : Option Session) : (signOutOthers r u active).Asks P :=
  (signOut_asks plain _ _ _).bind fun _ => log_asks plain _ _ _

theorem update_asks (saves : ∀ u, P (.users (.save u))) (user : Option User) (active : Option Session)
    (draft : Option UserDraft) : (update h r user active draft).Asks P := by
  refine (asks_orReject _ user).bind fun u => (asks_orReject _ draft).bind fun d => ?_
  refine (asks_checked (check d)).bind fun fields => (takeEmail_asks plain fields u).bind fun u₁ => ?_
  refine (takePassword_asks plain _ fields u₁).bind fun u₂ => (save_asks (saves _)).bind fun saved => ?_
  by_cases hpassword : fields.password.isSome = true
  · simp only [if_pos hpassword]
    exact (signOutOthers_asks plain saved active).bind fun _ => asks_pure saved
  · simp only [if_neg hpassword]
    exact asks_pure saved

theorem get_asks (id : Id) : (get id).Asks P := by
  unfold get
  by_cases hid : id = 0
  · simp only [if_pos hid]
    exact asks_throw_bind _ _
  · simp only [if_neg hid]
    exact (asks_users (plain (.users (.getById id)) trivial)).bind fun found => asks_orReject _ found

theorem delete_asks (user : Option User) (removes : ∀ u, user = some u → P (.users (.delete u))) :
    (delete r user).Asks P := by
  cases user with
  | none => exact asks_throw_bind _ _
  | some u =>
    show (signOut deleteContext u.id none >>= _ : Service User).Asks P
    refine (signOut_asks plain _ _ _).bind fun _ => (asks_users (removes u rfl)).bind fun u => ?_
    exact (log_asks plain _ _ _).bind fun _ => asks_pure u

end Accounts

namespace Sessions

theorem prepare_asks (x : Session) : (prepare h x).Asks P := by
  refine (asks_perform (plain .draw trivial)).bind fun draw => (asks_credential _ _).bind fun y => ?_
  refine (asks_perform (plain .clock trivial)).bind fun now => ?_
  cases Expiry.compute? now <;> exact ⟨trivial⟩

theorem findUser_asks (s : SignIn) : (findUser s).Asks P := by
  unfold findUser
  cases addressKey s with
  | none => exact asks_pure none
  | some email => exact asks_users (plain (.users (.getByEmail email)) trivial)

theorem create_asks (opens : ∀ x, P (.sessions (.create x))) (signIn : Option SignIn) :
    (create h r signIn).Asks P := by
  refine (asks_orReject _ signIn).bind fun s => ?_
  by_cases hip : s.clientIp = ""
  · simp only [if_pos hip]
    exact asks_throw_bind _ _
  simp only [if_neg hip]
  refine (asks_checked (issuable s.purpose)).bind fun purpose => ?_
  refine (findUser_asks plain s).bind fun found => (asks_orReject _ found).bind fun u => ?_
  refine (asks_checked _).bind fun _ => (prepare_asks plain _).bind fun x => ?_
  exact (asks_sessions (opens x)).bind fun x => (log_asks plain _ _ _).bind fun _ => asks_pure x

theorem get_asks (id : Id) : (get id).Asks P :=
  (asks_sessions (plain (.sessions (.getById id)) trivial)).bind fun found => asks_orReject _ found

theorem delete_asks (userId : Id) (keep : Option Session) : (delete r userId keep).Asks P := by
  unfold delete
  by_cases huser : userId = 0
  · simp only [if_pos huser]
    exact asks_throw_bind _ _
  · simp only [if_neg huser]
    refine (Accounts.signOut_asks plain _ _ _).bind fun count => ?_
    exact (log_asks plain _ _ _).bind fun _ => asks_pure count

theorem verify_asks (authorization : String) : (verify h r authorization).Asks P := by
  refine (asks_checked (readAuthorization authorization)).bind fun parts => ?_
  refine (get_asks plain parts.1).bind fun x => ?_
  by_cases htoken : (!x.hasToken h parts.2) = true
  · simp only [if_pos htoken]
    exact asks_throw_bind _ _
  simp only [if_neg htoken]
  refine (asks_perform (plain .clock trivial)).bind fun now => ?_
  by_cases hexpired : x.isExpired now = true
  · simp only [if_pos hexpired]
    exact asks_throw_bind _ _
  simp only [if_neg hexpired]
  refine (asks_users (plain (.users (.getById x.userId)) trivial)).bind fun found => ?_
  cases found with
  | some u => exact asks_pure (x, u)
  | none => exact (log_asks plain _ _ _).bind fun _ => asks_throw _

end Sessions

/-- **Each operation asks plain questions**, and besides, a sign-up may insert users and tell operators of
    them, an update may save users, a deletion may delete its user, and a sign-in may open sessions. -/
theorem job_asks (job : Job) (inserts : ∀ draft, job = .signUp draft → ∀ u, P (.users (.create u)))
    (tells : ∀ draft, job = .signUp draft → ∀ text, P (.notify (.event r Accounts.newUserTitle text)))
    (saves : ∀ user active draft, job = .update user active draft → ∀ u, P (.users (.save u)))
    (removes : ∀ u, job = .deleteUser (some u) → P (.users (.delete u)))
    (opens : ∀ signIn, job = .signIn signIn → ∀ x, P (.sessions (.create x))) :
    (job.program h r).Asks P := by
  cases job with
  | signUp draft =>
    exact (Accounts.create_asks plain (inserts draft rfl) (tells draft rfl) draft).bind fun _ => asks_pure _
  | update user active draft =>
    exact (Accounts.update_asks plain (saves user active draft rfl) user active draft).bind
      fun _ => asks_pure _
  | getUser id => exact (Accounts.get_asks plain id).bind fun _ => asks_pure _
  | deleteUser user =>
    exact (Accounts.delete_asks plain user fun u hu => removes u (hu ▸ rfl)).bind fun _ => asks_pure _
  | signIn s => exact (Sessions.create_asks plain (opens s rfl) s).bind fun _ => asks_pure _
  | getSession id => exact (Sessions.get_asks plain id).bind fun _ => asks_pure _
  | signOut userId keep => exact (Sessions.delete_asks plain userId keep).bind fun _ => asks_pure _
  | verify authorization =>
    show Asks P (Sessions.verify h r authorization >>= fun p => pure (Value.verified p.1 p.2))
    exact (Sessions.verify_asks plain authorization).bind fun _ => asks_pure _

end Turnstile
