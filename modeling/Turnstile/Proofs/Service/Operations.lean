import Turnstile.Proofs.Accounts.Draft
import Turnstile.Proofs.Service.Conduct

namespace Turnstile

open Credential (Hasher)

/-!
# What the operations do to rows

Operation by operation, that it keeps to what `Job.Allows` says of it.

* `Accounts.acts_signOut`: a sign-out deletes what it has listed, but for what is to be kept.
* `job_concludes` puts the operations together.
* `allows_of_mem` and `same_of_rejected` say what it means for runs in which many operations are at work.
-/

variable {job : Job} {h : Hasher} {r : Request} {α : Type}

theorem looks_log (level : Level) (message : String) (fields : List (String × Json)) :
    Looks job (fun _ => True) (Service.log r level message fields) :=
  looks_perform _ trivial

theorem acts_log {K : List (Exchange Store) → Prop} (hK : ∀ past x, K past → K (past ++ [x]))
    (level : Level) (message : String) (fields : List (String × Json)) :
    Acts job K (Service.log r level message fields) :=
  acts_perform _ trivial hK

namespace Accounts

/-! ### Signing out -/

/-- The loop deletes sessions that were listed, but for the one to keep. -/
theorem acts_deleteEach (context : String) {userId : Id} {keep : Option Id} (l rest : List Session)
    (hrest : ∀ y ∈ rest, y ∈ l) :
    Acts job (fun past => job.SignsOut past userId keep ∧ ∀ y ∈ l, Listed past userId y)
      (deleteEach context keep rest) := by
  -- induction on what is left of the list; what is known is known of the whole list
  induction rest with
  | nil => exact acts_pure
  | cons y rest ih =>
    have hnext := ih fun z hz => hrest z (List.mem_cons_of_mem _ hz)
    rw [deleteEach]
    by_cases hkeep : some y.id = keep
    · rw [if_pos hkeep]
      exact hnext
    · rw [if_neg hkeep]
      refine Acts.bind (acts_sessions _ _ ?_ ?_) fun _ => hnext.bind fun _ => acts_pure
      · rintro past ⟨hsigns, hlisted⟩
        exact ⟨userId, keep, hsigns, hlisted y (hrest y List.mem_cons_self), hkeep⟩
      · rintro past x ⟨hsigns, hlisted⟩
        exact ⟨hsigns.snoc, fun z hz => (hlisted z hz).snoc⟩

/-- **A sign-out** deletes sessions that it has listed as running for the user, but for the one to keep. -/
theorem acts_signOut (context : String) (userId : Id) (keep : Option Id) :
    Acts job (fun past => job.SignsOut past userId keep) (signOut context userId keep) := by
  have hK (past : List (Exchange Store)) (x : Exchange Store) (hpast : job.SignsOut past userId keep) :
      job.SignsOut (past ++ [x]) userId keep := hpast.snoc
  refine Acts.bind (acts_perform .clock trivial hK) fun now => ?_
  intro past hpast
  rw [Service.passes_bind, Service.passes_sessions]
  intro answer before after
  refine ⟨trivial, ?_⟩
  rcases answer with f | found
  · exact ⟨hpast.snoc, fun _ h => nomatch h⟩
  · -- what the loop deletes is what has just been listed
    have hlisted (y : Session) (hy : y ∈ found) : Listed
        (past ++ [⟨.sessions (.listActive userId now), .ok found, before, after⟩]) userId y :=
      ⟨now, found, before, after, List.mem_append_right _ List.mem_cons_self, hy⟩
    refine (acts_deleteEach context found found (fun _ hy => hy) _ ⟨hpast.snoc, hlisted⟩).mono ?_
    exact fun past result hresult => ⟨hresult.1.1, hresult.2⟩

/-! ### Signing up -/

theorem looks_requireFree (context email : String) :
    Looks job (fun _ => True) (requireFree context email) := by
  refine (looks_users _ (.getByEmail email) trivial).bind fun found _ => ?_
  cases found with
  | none => exact looks_pure trivial
  | some u => exact looks_throw _

/-- Hashing a password changes a record, but not its key nor its mark. -/
theorem looks_takePassword (context : String) (fields : Fields) (u : User) :
    Looks job (fun v => v.id = u.id ∧ v.deletedAt = u.deletedAt) (takePassword h context fields u) := by
  unfold takePassword
  cases fields.password with
  | none => exact looks_pure ⟨rfl, rfl⟩
  | some password =>
    refine (looks_perform .salt trivial).bind fun salt _ => ?_
    simp only [User.hashPassword]
    cases h.create salt password with
    | error e => exact (looks_credential context _).bind fun _ _ => looks_pure ⟨rfl, rfl⟩
    | ok hash => exact (looks_credential context _).bind fun _ _ => looks_pure ⟨rfl, rfl⟩

/-- From the insertion on, nothing is rejected. -/
theorem acts_insert (u : User) : Acts job (fun _ => True) (do
    let u ← Service.users createContext (.create u)
    Service.log r .info "User created" [userField u.id]
    announce r u
    return u) := by
  refine (acts_users _ (.create _) (fun _ _ => trivial) fun _ _ _ => trivial).bind fun u => ?_
  refine (acts_log (fun _ _ _ => trivial) _ _ _).bind fun _ => Acts.bind ?_ fun _ => acts_pure
  refine (acts_perform (.notify _) trivial fun _ _ _ => trivial).bind fun delivery => ?_
  cases delivery with
  | error fault => exact acts_log (fun _ _ _ => trivial) _ _ _
  | ok => exact acts_pure

theorem create_concludes (draft : Option UserDraft) : Concludes (.signUp draft) (create h r draft) := by
  refine (looks_orReject (P := fun _ => True) _ draft fun _ _ => trivial).bind_concludes fun d _ => ?_
  refine (looks_checked (P := fun _ => True) _ fun _ _ => trivial).bind_concludes fun fields _ => ?_
  have hfree : Looks (.signUp draft) (fun _ => True) (takeNewEmail fields) := by
    unfold takeNewEmail
    cases fields.email with
    | none => exact looks_pure trivial
    | some email => exact looks_requireFree _ _
  refine hfree.bind_concludes fun _ _ => (looks_takePassword _ fields _).bind_concludes fun u _ => ?_
  exact (acts_insert _).heeds fun _ _ => trivial

/-! ### Changing and deleting -/

/-- Another address is put into a record, but its key and its mark stay. -/
theorem looks_takeEmail (fields : Fields) (u : User) :
    Looks job (fun v => v.id = u.id ∧ v.deletedAt = u.deletedAt) (takeEmail fields u) := by
  unfold takeEmail
  cases fields.email with
  | none => exact looks_pure ⟨rfl, rfl⟩
  | some email =>
    by_cases hsame : u.email = some email
    · simp only [if_pos hsame]
      exact looks_pure ⟨rfl, rfl⟩
    · simp only [if_neg hsame]
      exact (looks_requireFree _ _).bind fun _ _ => looks_pure ⟨rfl, rfl⟩

/-- Saving a user: it is rejected only if the call has failed, and what follows may rely on the answer. -/
theorem save_concludes {v : User} {f : User → Service α}
    (allows : ∀ past, job.Allows past (.users (.save v)))
    (hf : ∀ saved, Keeps job (fun past => Saved past v saved) Heeded (f saved)) :
    Concludes job (save v >>= f) := by
  intro past hpast
  rw [Service.passes_bind, save, Service.passes_bind, Service.passes_perform]
  intro answer before after
  refine ⟨allows past, ?_⟩
  rcases answer with failure | saved
  · -- that nobody was found is a rejection, but the call has changed nothing
    show Service.Passes _ _ (if failure.isNotFound then _ else _) _
    by_cases hnotFound : failure.isNotFound = true
    · rw [if_pos hnotFound]
      exact hpast.snoc (.usersFailed _ failure before after)
    · rw [if_neg hnotFound]
      exact trivial
  · exact hf saved _ ⟨before, after, List.mem_append_right _ List.mem_cons_self⟩

theorem update_concludes (user : Option User) (active : Option Session) (draft : Option UserDraft) :
    Concludes (.update user active draft) (update h r user active draft) := by
  refine (looks_orReject (P := (user = some ·)) _ user fun _ h => h).bind_concludes fun u hu => ?_
  refine (looks_orReject (P := (draft = some ·)) _ draft fun _ h => h).bind_concludes fun d hd => ?_
  refine (looks_checked (P := (check d = .ok ·)) _ fun _ h => h).bind_concludes fun fields hfields => ?_
  refine (looks_takeEmail fields u).bind_concludes fun u₁ h₁ => ?_
  refine (looks_takePassword _ fields u₁).bind_concludes fun u₂ h₂ => ?_
  subst hu hd
  refine save_concludes (fun past => ?_) fun saved => ?_
  · -- neither the new address nor the new password has touched the key or the mark
    exact ⟨u, active, d, rfl, h₂.1.trans h₁.1, h₂.2.trans h₁.2⟩
  · by_cases hpassword : fields.password.isSome = true
    · -- whoever has been saved is signed out
      simp only [if_pos hpassword]
      refine Acts.heeds (K := fun past => Job.SignsOut past saved.id (active.map (·.id))
        (.update (some u) active (some d))) ?_ fun past hsaved => ?_
      · refine Acts.bind ((acts_signOut _ _ _).bind fun _ => ?_) fun _ => acts_pure
        exact acts_log (fun _ _ h => h.snoc) _ _ _
      · refine ⟨password_of_check hfields hpassword, rfl, _, saved, ?_, hsaved, rfl⟩
        exact h₂.1.trans h₁.1
    · simp only [if_neg hpassword]
      exact acts_pure.heeds fun _ h => h

theorem delete_concludes (user : Option User) : Concludes (.deleteUser user) (delete r user) := by
  refine (looks_orReject (P := (user = some ·)) _ user fun _ h => h).bind_concludes fun u hu => ?_
  subst hu
  refine Acts.heeds (K := fun past => Job.SignsOut past u.id none (.deleteUser (some u))) ?_
    fun _ _ => ⟨rfl, rfl⟩
  have hK (past : List (Exchange Store)) (x : Exchange Store)
      (hpast : Job.SignsOut past u.id none (.deleteUser (some u))) :
      Job.SignsOut (past ++ [x]) u.id none (.deleteUser (some u)) := hpast
  refine (acts_signOut _ _ _).bind fun _ => (acts_users _ (.delete u) (fun _ _ => rfl) hK).bind fun _ => ?_
  exact (acts_log hK _ _ _).bind fun _ => acts_pure

theorem get_looks (id : Id) : Looks job (fun _ => True) (get id) := by
  have hknown : Looks job (fun _ => True) (do
      Service.orReject .userNotFound (← Service.users getContext (.getById id)) : Service User) :=
    (looks_users _ (.getById id) trivial).bind fun found _ => looks_orReject _ found fun _ _ => trivial
  unfold get
  by_cases hid : id = 0
  · simp only [if_pos hid]
    exact (looks_throw (P := fun _ => True) _).bind fun _ _ => hknown
  · simp only [if_neg hid]
    exact hknown

end Accounts

namespace Sessions

open Accounts (acts_signOut)

theorem get_looks (id : Id) : Looks job (fun _ => True) (get id) :=
  (looks_sessions _ (.getById id) trivial).bind fun found _ => looks_orReject _ found fun _ _ => trivial

/-- Giving a session a token and an expiry is nothing that the rows know of. -/
theorem looks_prepare (x : Session) : Looks job (fun _ => True) (prepare h x) := by
  refine (looks_perform .draw trivial).bind fun draw _ => (looks_credential _ _).bind fun y _ => ?_
  refine (looks_perform .clock trivial).bind fun now _ => ?_
  cases Expiry.compute? now with
  | none => exact looks_throw _
  | some t => exact looks_pure trivial

theorem looks_findUser (s : SignIn) : Looks job (fun _ => True) (findUser s) := by
  unfold findUser
  cases addressKey s with
  | none => exact looks_pure trivial
  | some email => exact looks_users _ (.getByEmail email) trivial

theorem create_concludes (signIn : Option SignIn) : Concludes (.signIn signIn) (create h r signIn) := by
  refine (looks_orReject (P := fun _ => True) _ signIn fun _ _ => trivial).bind_concludes fun s _ => ?_
  by_cases hip : s.clientIp = ""
  · simp only [if_pos hip]
    exact (looks_throw (P := fun _ => False) _).bind_concludes fun _ h => h.elim
  simp only [if_neg hip]
  refine (looks_checked (P := fun _ => True) _ fun _ _ => trivial).bind_concludes fun purpose _ => ?_
  refine (looks_findUser s).bind_concludes fun found _ => ?_
  refine (looks_orReject (P := fun _ => True) _ found fun _ _ => trivial).bind_concludes fun u _ => ?_
  refine (looks_checked (P := fun _ => True) _ fun _ _ => trivial).bind_concludes fun _ _ => ?_
  refine (looks_prepare _).bind_concludes fun x _ => ?_
  -- from the insertion on, nothing is rejected
  refine Acts.heeds (K := fun _ => True) ?_ fun _ _ => trivial
  refine (acts_sessions _ (.create x) (fun _ _ => trivial) fun _ _ _ => trivial).bind fun y => ?_
  exact (acts_log (fun _ _ _ => trivial) _ _ _).bind fun _ => acts_pure

theorem delete_concludes (userId : Id) (keep : Option Session) :
    Concludes (.signOut userId keep) (delete r userId keep) := by
  by_cases huser : userId = 0
  · unfold delete
    simp only [if_pos huser]
    exact (looks_throw (P := fun _ => False) _).bind_concludes fun _ h => h.elim
  · unfold delete
    simp only [if_neg huser]
    refine Acts.heeds (K := fun past => Job.SignsOut past userId (keep.map (·.id)) (.signOut userId keep))
      ?_ fun _ _ => ⟨rfl, rfl⟩
    refine (acts_signOut _ _ _).bind fun count => ?_
    exact (acts_log (fun _ _ h => h) _ _ _).bind fun _ => acts_pure

theorem verify_looks (authorization : String) :
    Looks job (fun _ => True) (verify h r authorization) := by
  refine (looks_checked (P := fun _ => True) _ fun _ _ => trivial).bind fun parts _ => ?_
  refine (get_looks parts.1).bind fun x _ => ?_
  by_cases htoken : (!x.hasToken h parts.2) = true
  · simp only [if_pos htoken]
    exact (looks_throw (P := fun _ => False) _).bind fun _ h => h.elim
  simp only [if_neg htoken]
  refine (looks_perform .clock trivial).bind fun now _ => ?_
  by_cases hexpired : x.isExpired now = true
  · simp only [if_pos hexpired]
    exact (looks_throw (P := fun _ => False) _).bind fun _ h => h.elim
  simp only [if_neg hexpired]
  refine (looks_users _ (.getById x.userId) trivial).bind fun found _ => ?_
  cases found with
  | some u => exact looks_pure trivial
  | none => exact (looks_log _ _ _).bind fun _ _ => looks_throw _

end Sessions

/-- What comes back may be dressed up. -/
theorem Concludes.map {β : Type} {m : Service α} (hm : Concludes job m) (f : α → β) :
    Concludes job (m >>= fun a => pure (f a)) := by
  intro past hpast
  rw [Service.passes_map]
  refine (hm past hpast).mono ?_
  rintro past' ((rejection | failure) | value) hheeded
  · exact hheeded
  · exact trivial
  · exact trivial

/-- **Each operation keeps to its job**: it deletes and replaces only what belongs to it, and has left the
    rows alone if it comes back with a rejection. -/
theorem job_concludes (h : Hasher) (r : Request) (job : Job) : Concludes job (job.program h r) := by
  cases job with
  | signUp draft => exact (Accounts.create_concludes draft).map _
  | update user active draft => exact (Accounts.update_concludes user active draft).map _
  | getUser id => exact (Accounts.get_looks id).concludes.map _
  | deleteUser user => exact (Accounts.delete_concludes user).map _
  | signIn s => exact (Sessions.create_concludes s).map _
  | getSession id => exact (Sessions.get_looks id).concludes.map _
  | signOut userId keep => exact (Sessions.delete_concludes userId keep).map _
  | verify authorization =>
    show Concludes _ (Sessions.verify h r authorization >>= fun p => pure (Value.verified p.1 p.2))
    exact (Sessions.verify_looks authorization).concludes.map _

/-! ### Among others -/

section Run

variable {T : Trace Store} {c : Crowd Store (Request × Job) (Except ServiceFailure Value)} {i : Nat}
  {x : Exchange Store}

/-- In a run, an operation asks only for what belongs to its job, behind what it has been answered. -/
theorem allows_of_mem (run : (service h).Run .nobody T c) (hi : c.job? i = some (r, job))
    (hx : (i, x) ∈ T) :
    ∃ before after, T = before ++ (i, x) :: after ∧ job.Allows (before.own i) x.effect := by
  have hpasses : ((service h).program (r, job)).Passes (conduct job) Heeded [] :=
    job_concludes h r job [] fun _ h => nomatch h
  obtain ⟨before, after, hT, hallows⟩ := run.demands hi hpasses hx
  rw [conduct, Trace.noted_history] at hallows
  exact ⟨before, after, hT, hallows⟩

/-- **A rejected operation has left the store alone.** -/
theorem same_of_rejected (run : (service h).Run .nobody T c) {rejection : Rejection}
    (hi : c.Finished i (r, job) (.error (.rejected rejection))) (hx : (i, x) ∈ T) :
    x.after = x.before := by
  have hpasses : ((service h).program (r, job)).Passes (conduct job) Heeded [] :=
    job_concludes h r job [] fun _ h => nomatch h
  have hidle := run.post_of_finished hi hpasses
  rw [conduct, Trace.noted_history] at hidle
  exact (hidle x (Trace.mem_own.2 hx)).same (run.answers_of_mem hx)

end Run

end Turnstile
