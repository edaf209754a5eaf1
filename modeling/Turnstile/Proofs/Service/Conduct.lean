import Turnstile.Proofs.Service.Jobs

namespace Turnstile

open Credential (Hasher)

/-!
# What an operation does to rows

Each operation on its own, whatever it is answered: which rows it asks to have deleted or replaced, and what
it has done when it comes back with a rejection.

* `Exchange.Idle` holds of exchanges that leave the rows alone.
* `Job.Allows` says which deletions and replacements belong to a job: a session is deleted only if the job
  signs its user out and does not keep it, a user only by the deletion of that user, and a user's record is
  replaced only by an update of that record.
* `Concludes` is what is to be shown of an operation: it asks only for what is allowed, and has left the rows
  alone whenever it comes back with a rejection. Most operations first look (`Looks`) and then act (`Acts`);
  there are rules for either.
-/

/-! ### Exchanges that leave the rows alone -/

/-- The question does not ask for a change of a row. -/
def Effect.Reads : Effect → Prop
  | .users (.create _) | .users (.save _) | .users (.delete _) => False
  | .sessions (.create _) | .sessions (.delete _) => False
  | _ => True

/-- The exchange asks for no change, or the call failed. -/
inductive Exchange.Idle {σ : Type} : Exchange σ → Prop where
  | reads (x : Exchange σ) (reads : x.effect.Reads) : Idle x
  | usersFailed (call : UserCall) (f : RepositoryFailure) (before after : σ) :
      Idle ⟨.users call, .error f, before, after⟩
  | sessionsFailed (call : SessionCall) (f : RepositoryFailure) (before after : σ) :
      Idle ⟨.sessions call, .error f, before, after⟩

theorem Store.Writes.not_reads {s s' : Store} {e : Effect} (h : s.Writes e s') : ¬ e.Reads := by
  intro reads
  cases h with
  | insertUser call u hcall free => rcases hcall with rfl | ⟨rfl, -⟩ <;> exact reads
  | _ => exact reads

/-- What is idle has changed nothing. -/
theorem Exchange.Idle.same {x : Exchange Store} (idle : x.Idle)
    (answers : x.before.Answers x.effect x.answer x.after) : x.after = x.before := by
  cases idle with
  | reads x reads =>
    rcases answers.cases with hsame | hwrites
    · exact hsame
    · exact absurd reads hwrites.not_reads
  | usersFailed call f before after => exact answers.eq_of_error
  | sessionsFailed call f before after => exact answers.eq_of_sessionsError

/-! ### What belongs to a job -/

section Conduct

variable {past past' : List (Exchange Store)} {x : Exchange Store}

/-- The session is one of those that were listed as running for a user. -/
def Listed (past : List (Exchange Store)) (userId : Id) (y : Session) : Prop :=
  ∃ now found before after,
    ⟨.sessions (.listActive userId now), .ok found, before, after⟩ ∈ past ∧ y ∈ found

/-- The user was saved. -/
def Saved (past : List (Exchange Store)) (v u : User) : Prop :=
  ∃ before after, ⟨.users (.save v), .ok u, before, after⟩ ∈ past

/-- The job signs a user out and keeps a session: to delete the sessions or the user, or after a new password
    has been saved for the user. -/
def Job.SignsOut (past : List (Exchange Store)) (userId : Id) (keep : Option Id) : Job → Prop
  | .signOut id active => id = userId ∧ active.map (·.id) = keep
  | .deleteUser (some u) => u.id = userId ∧ keep = none
  | .update (some u) active (some d) =>
    d.password.isSome = true ∧ active.map (·.id) = keep ∧
      ∃ v saved, v.id = u.id ∧ Saved past v saved ∧ saved.id = userId
  | _ => False

/-- The question belongs to the job, behind what has been exchanged so far. -/
def Job.Allows (job : Job) (past : List (Exchange Store)) : Effect → Prop
  | .sessions (.delete y) =>
    ∃ userId keep, job.SignsOut past userId keep ∧ Listed past userId y ∧ some y.id ≠ keep
  | .users (.delete v) => job = .deleteUser (some v)
  | .users (.save v) => ∃ u active d, job = .update (some u) active (some d) ∧
      v.id = u.id ∧ v.deletedAt = u.deletedAt
  | _ => True

/-- The watch over a job. -/
def conduct (job : Job) : Watch Store (List (Exchange Store)) :=
  .history fun past x => job.Allows past x.effect

/-- The rows have been left alone so far. -/
def AllIdle (past : List (Exchange Store)) : Prop := ∀ y ∈ past, y.Idle

/-- A rejection comes back only if the rows have been left alone. -/
def Heeded (past : List (Exchange Store)) : Except ServiceFailure α → Prop
  | .error (.rejected _) => AllIdle past
  | _ => True

theorem Job.allows_of_reads {job : Job} {e : Effect} (h : e.Reads) : job.Allows past e := by
  cases e with
  | users call => cases call <;> first | exact trivial | exact h.elim
  | sessions call => cases call <;> first | exact trivial | exact h.elim
  | _ => exact trivial

/-- What has been seen is not forgotten. -/
theorem Job.SignsOut.snoc {job : Job} {userId : Id} {keep : Option Id}
    (h : job.SignsOut past userId keep) : job.SignsOut (past ++ [x]) userId keep := by
  cases job with
  | signOut id active => exact h
  | deleteUser user => cases user <;> exact h
  | update user active draft =>
    cases user with
    | none => exact h
    | some u =>
      cases draft with
      | none => exact h
      | some d =>
        obtain ⟨hpassword, hkeep, v, saved, hv, ⟨before, after, hmem⟩, hsaved⟩ := h
        exact ⟨hpassword, hkeep, v, saved, hv, ⟨before, after, List.mem_append_left _ hmem⟩, hsaved⟩
  | _ => exact h

theorem Listed.snoc {userId : Id} {y : Session} (h : Listed past userId y) :
    Listed (past ++ [x]) userId y := by
  obtain ⟨now, found, before, after, hmem, hy⟩ := h
  exact ⟨now, found, before, after, List.mem_append_left _ hmem, hy⟩

theorem AllIdle.snoc (h : AllIdle past) (hx : x.Idle) : AllIdle (past ++ [x]) := by
  intro y hy
  rcases List.mem_append.1 hy with hy | hy
  · exact h y hy
  · exact List.mem_singleton.1 hy ▸ hx

theorem heeded_of_allIdle (h : AllIdle past) (result : Except ServiceFailure α) :
    Heeded past result := by
  rcases result with (rejection | failure) | value
  · exact h
  · exact trivial
  · exact trivial

end Conduct

/-! ### Keeping to a job -/

/-- Behind exchanges with a property, the operation asks only for what is allowed and comes back as is
    said. -/
def Keeps (job : Job) (K : List (Exchange Store) → Prop)
    (Q : List (Exchange Store) → Except ServiceFailure α → Prop) (m : Service α) : Prop :=
  ∀ past, K past → m.Passes (conduct job) Q past

/-- The operation leaves the rows alone; a value that it gives has a property. -/
def Looks (job : Job) (P : α → Prop) : Service α → Prop :=
  Keeps job AllIdle fun past result => AllIdle past ∧ ∀ a, result = .ok a → P a

/-- The operation keeps a property of the exchanges, and never comes back with a rejection. -/
def Acts (job : Job) (K : List (Exchange Store) → Prop) : Service α → Prop :=
  Keeps job K fun past result => K past ∧ ∀ r, result ≠ .error (.rejected r)

/-- The operation has left the rows alone if it comes back with a rejection. -/
def Concludes (job : Job) : Service α → Prop := Keeps job AllIdle Heeded

section Keeping

variable {α β : Type} {job : Job} {K : List (Exchange Store) → Prop} {m : Service α}
  {f : α → Service β}

theorem Keeps.bind {R : List (Exchange Store) → Except ServiceFailure α → Prop}
    {Q : List (Exchange Store) → Except ServiceFailure β → Prop} (hm : Keeps job K R m)
    (herror : ∀ past failure, R past (.error failure) → Q past (.error failure))
    (hf : ∀ a, Keeps job (fun past => R past (.ok a)) Q (f a)) : Keeps job K Q (m >>= f) := by
  intro past hpast
  rw [Service.passes_bind]
  refine (hm past hpast).mono ?_
  rintro past' (failure | a) hresult
  · exact herror past' failure hresult
  · exact hf a past' hresult

/-! #### Looking -/

variable {P : α → Prop}

theorem looks_pure {a : α} (h : P a) : Looks job P (pure a) := by
  intro past hpast
  refine ⟨hpast, ?_⟩
  rintro _ ⟨⟩
  exact h

theorem looks_throw (failure : ServiceFailure) : Looks job P (throw failure) :=
  fun _ hpast => ⟨hpast, fun _ h => nomatch h⟩

theorem looks_checked (result : Except Rejection α) (h : ∀ a, result = .ok a → P a) :
    Looks job P (Service.checked result) := by
  cases result with
  | error rejection => exact looks_throw _
  | ok a => exact looks_pure (h a rfl)

theorem looks_orReject (rejection : Rejection) (value : Option α) (h : ∀ a, value = some a → P a) :
    Looks job P (Service.orReject rejection value) := by
  cases value with
  | none => exact looks_throw _
  | some a => exact looks_pure (h a rfl)

theorem looks_perform (e : Effect) (reads : e.Reads) :
    Looks job (fun _ => True) (Service.perform e) := by
  intro past hpast answer before after
  exact ⟨Job.allows_of_reads reads, hpast.snoc (.reads _ reads), fun _ _ => trivial⟩

theorem Looks.bind {Q : β → Prop} (hm : Looks job P m) (hf : ∀ a, P a → Looks job Q (f a)) :
    Looks job Q (m >>= f) := by
  refine Keeps.bind hm (fun past failure h => ⟨h.1, fun _ h => nomatch h⟩) fun a past h => ?_
  exact hf a (h.2 a rfl) past h.1

theorem looks_credential (context : String) (result : Except Credential.CredentialError α) :
    Looks job (fun _ => True) (Service.credential context result) := by
  cases result with
  | error e => exact looks_throw _
  | ok a => exact looks_pure trivial

theorem looks_users (context : String) (call : UserCall) (reads : (Effect.users call).Reads) :
    Looks job (fun _ => True) (Service.users context call) := by
  refine (looks_perform _ reads).bind fun answer _ => ?_
  cases answer with
  | error f => exact looks_throw _
  | ok result => exact looks_pure trivial

theorem looks_sessions (context : String) (call : SessionCall)
    (reads : (Effect.sessions call).Reads) :
    Looks job (fun _ => True) (Service.sessions context call) := by
  refine (looks_perform _ reads).bind fun answer _ => ?_
  cases answer with
  | error f => exact looks_throw _
  | ok result => exact looks_pure trivial

/-! #### Acting -/

theorem Acts.bind (hm : Acts job K m) (hf : ∀ a, Acts job K (f a)) : Acts job K (m >>= f) := by
  refine Keeps.bind hm (fun past failure h => ⟨h.1, ?_⟩) fun a past h => hf a past h.1
  intro r hr
  exact h.2 r (congrArg Except.error (Except.error.inj hr))

theorem acts_pure {a : α} : Acts job K (pure a) := fun _ hpast => ⟨hpast, fun _ h => nomatch h⟩

/-- Asking for no change is no obstacle to a property that is never lost. -/
theorem acts_perform (e : Effect) (reads : e.Reads) (hK : ∀ past x, K past → K (past ++ [x])) :
    Acts job K (Service.perform e) := by
  intro past hpast answer before after
  exact ⟨Job.allows_of_reads reads, hK _ _ hpast, fun _ h => nomatch h⟩

/-- A call on the users that belongs to the job; its failures are no rejections. -/
theorem acts_users (context : String) (call : UserCall)
    (allows : ∀ past, K past → job.Allows past (.users call))
    (hK : ∀ past x, K past → K (past ++ [x])) : Acts job K (Service.users context call) := by
  intro past hpast
  rw [Service.passes_users]
  intro answer before after
  refine ⟨allows past hpast, hK _ _ hpast, ?_⟩
  cases answer <;> exact fun _ h => nomatch h

/-- A call on the sessions that belongs to the job; its failures are no rejections. -/
theorem acts_sessions (context : String) (call : SessionCall)
    (allows : ∀ past, K past → job.Allows past (.sessions call))
    (hK : ∀ past x, K past → K (past ++ [x])) : Acts job K (Service.sessions context call) := by
  intro past hpast
  rw [Service.passes_sessions]
  intro answer before after
  refine ⟨allows past hpast, hK _ _ hpast, ?_⟩
  cases answer <;> exact fun _ h => nomatch h

/-! #### Concluding -/

theorem Looks.concludes (h : Looks job P m) : Concludes job m :=
  fun past hpast => (h past hpast).mono fun _ result hresult => heeded_of_allIdle hresult.1 result

theorem Looks.bind_concludes (hm : Looks job P m) (hf : ∀ a, P a → Concludes job (f a)) :
    Concludes job (m >>= f) := by
  refine Keeps.bind hm (fun past failure h => heeded_of_allIdle h.1 _) fun a past h => ?_
  exact hf a (h.2 a rfl) past h.1

/-- What never comes back with a rejection has nothing to heed. -/
theorem Acts.heeds {K' : List (Exchange Store) → Prop} (h : Acts job K m)
    (hK : ∀ past, K' past → K past) : Keeps job K' Heeded m := by
  intro past hpast
  refine (h past (hK past hpast)).mono ?_
  rintro past' ((rejection | failure) | value) ⟨-, hnot⟩
  · exact absurd rfl (hnot rejection)
  · exact trivial
  · exact trivial

end Keeping

end Turnstile
