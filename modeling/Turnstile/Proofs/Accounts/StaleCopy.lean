import Turnstile.Proofs.Accounts.Update
import Turnstile.Proofs.Sessions.Lifetime
import Turnstile.Proofs.Store.Replaced

namespace Turnstile.Accounts

open Credential (Hasher)
open Update (Asks Hashed Saves put)

/-!
# Updates from one copy

An update saves the whole record that it was given, with its own fields put in. If several requests update
the same copy, the last save decides about every field: a field that only an earlier one had been given is
put back to what the copy says.

* `Editor` is a request that updates the copy, and `Stale` says that several do.
* `RowBehind` is the invariant: the row of the user is the one that was copied, or that of the last save.
  `rowBehind_of_run` is the induction over the run.
* `last_save_counts`: all updates succeed, and the row in the end is that of the last save.
* `NoLostUpdate` is what one might expect instead, and `not_noLostUpdate` refutes it.
-/

/-- A request that updates the copy, with its place among the tasks and its draft as it is checked. -/
structure Editor where
  place : Nat
  request : Request
  active : Option Session
  draft : UserDraft
  fields : Fields

/-- The job of an editor. -/
def Editor.job (x : Editor) (u : User) : Request × Job :=
  (x.request, .update (some u) x.active (some x.draft))

section Run

variable (h : Hasher) (b c : Crowd Store (Request × Job) (Except ServiceFailure Value)) (T : Trace Store)
  (u row : User) (xs : List Editor)

/-- The editor updates the copy on a store that answers: its draft is in order, its address is not in use by
    others, and its password can be hashed. -/
structure Editor.Edits (x : Editor) : Prop where
  begun : b.tasks.length ≤ x.place
  job : c.job? x.place = some (x.job u)
  checked : check x.draft = .ok x.fields
  free : b.shared.emailTaken x.fields.email u.id = false
  hashes : ∀ password salt, x.fields.password = some password → ∃ hash, h.create salt password = .ok hash
  served : ∀ y, (x.place, y) ∈ T → y.Served

/-- Several requests update one copy of a live user, at most one of them its address, and nobody else
    changes users meanwhile. -/
structure Stale : Prop where
  live : b.shared.liveUser? u.id = some row
  copy : u = row.refreshPasswordSet
  edits : ∀ x ∈ xs, x.Edits h b c T u
  others : ∀ k y, (k, y) ∈ T → (∀ x ∈ xs, x.place ≠ k) → y.after.users = y.before.users
  oneEmail : ∀ x ∈ xs, ∀ z ∈ xs, x.fields.email.isSome → z.fields.email.isSome → x = z

end Run

/-! ### Saves -/

/-- The exchange is an attempt to save. -/
def Saving (y : Exchange Store) : Prop := ∃ w, y.effect = .users (.save w)

/-- No editor has tried to save. -/
def NoSave (xs : List Editor) (T : Trace Store) : Prop := ∀ x ∈ xs, ∀ y, (x.place, y) ∈ T → ¬ Saving y

/-- Of all saves of the editors, the last was made by this one. -/
def LastSave (xs : List Editor) (T : Trace Store) (x : Editor) : Prop :=
  ∃ A y B, T = A ++ (x.place, y) :: B ∧ Saving y ∧ NoSave xs B

/-- The row that is stored of a copy with the fields of a draft put in. -/
def stored (fields : Fields) (hash : Option String) (u : User) : User :=
  Store.keptUser (put fields hash u).refreshPasswordSet

section Saves

variable {xs : List Editor} {T : Trace Store} {x : Editor} {k : Nat} {y : Exchange Store}

theorem NoSave.snoc (hT : NoSave xs T) (hy : ∀ x ∈ xs, x.place = k → ¬ Saving y) :
    NoSave xs (T ++ [(k, y)]) := by
  intro x hx z hz
  rcases List.mem_append.1 hz with hz | hz
  · exact hT x hx z hz
  · obtain ⟨rfl, rfl⟩ := Prod.mk.inj (List.mem_singleton.1 hz)
    exact hy x hx rfl

theorem LastSave.snoc (hT : LastSave xs T x) (hy : ∀ x ∈ xs, x.place = k → ¬ Saving y) :
    LastSave xs (T ++ [(k, y)]) x := by
  obtain ⟨A, z, B, rfl, hz, hB⟩ := hT
  exact ⟨A, z, B ++ [(k, y)], by simp, hz, hB.snoc hy⟩

theorem lastSave_snoc (hy : Saving y) : LastSave xs (T ++ [(x.place, y)]) x :=
  ⟨T, y, [], rfl, hy, fun _ _ _ hmem => nomatch hmem⟩

theorem LastSave.exists_saving (hT : LastSave xs T x) : ∃ y, (x.place, y) ∈ T ∧ Saving y := by
  obtain ⟨A, y, B, rfl, hy, -⟩ := hT
  exact ⟨y, List.mem_append_right _ List.mem_cons_self, hy⟩

end Saves

/-! ### The row of the user -/

section Row

variable {h : Hasher} {s s' t : Store} {u row : User} {xs : List Editor} {T : Trace Store} {x : Editor}
  {fields : Fields} {y : Exchange Store}

/-- What is between the copying and the saves: the row that was copied, and addresses that are free. -/
structure Copied (s : Store) (u row : User) (xs : List Editor) : Prop where
  live : s.liveUser? u.id = some row
  key : u.id ≠ 0
  copy : u = row.refreshPasswordSet
  own : s.emailTaken u.email u.id = false
  free : ∀ x ∈ xs, s.emailTaken x.fields.email u.id = false

/-- The row of the user behind a trace: the one that was copied, as long as no editor has saved, and then
    that of the last save. -/
inductive RowBehind (h : Hasher) (s : Store) (u row : User) (xs : List Editor) (T : Trace Store)
    (t : Store) : Prop where
  | copied (none : NoSave xs T) (replaced : Store.Replaced s u.id row t)
  | saved (x : Editor) (hx : x ∈ xs) (last : LastSave xs T x) (hash : Option String)
      (hashed : Hashed h x.fields.password hash)
      (replaced : Store.Replaced s u.id (stored x.fields hash u) t)

/-- The question of an editor, answered by the store; or the step of somebody who leaves the users alone. -/
def Meanwhile (h : Hasher) (u : User) (xs : List Editor) (k : Nat) (y : Exchange Store) : Prop :=
  (∃ x ∈ xs, x.place = k ∧ Asks h x.fields u y.effect ∧ y.Served) ∨
    (∀ x ∈ xs, x.place ≠ k) ∧ y.after.users = y.before.users

/-- Whatever the row is, it was created when the copy was. -/
theorem RowBehind.exists_replaced (behind : RowBehind h s u row xs T t) (copied : Copied s u row xs) :
    ∃ r, Store.Replaced s u.id r t ∧ r.createdAt = u.createdAt := by
  cases behind with
  | copied _ replaced => exact ⟨row, replaced, by rw [copied.copy]; rfl⟩
  | saved _ _ _ hash _ replaced => exact ⟨_, replaced, rfl⟩

/-- A question that belongs to an update and is not a save leaves the users alone. -/
theorem users_eq_of_not_saving (asks : Asks h fields u y.effect) (served : y.Served) (hy : ¬ Saving y) :
    y.after.users = y.before.users := by
  obtain ⟨e, answer, before, after⟩ := y
  show after.users = before.users
  cases e with
  | users call =>
    have hcall : before.callUsers call = (answer, after) := served
    cases call with
    | save w => exact absurd ⟨w, rfl⟩ hy
    | getByEmail email => rw [← (Prod.mk.inj hcall).2]
    | create | getById | delete => exact asks.elim
  | sessions call =>
    have hcall : before.callSessions call = (answer, after) := served
    rw [← Store.callSessions_users before call, hcall]
  | _ => exact congrArg Store.users served

/-- **A save of an editor** succeeds, and replaces the row by the copy with its fields put in. -/
theorem RowBehind.save (behind : RowBehind h s u row xs T t) (copied : Copied s u row xs) (hx : x ∈ xs)
    {w : User} (saves : Saves h x.fields u w) :
    ∃ hash saved t', Hashed h x.fields.password hash ∧ t.callUsers (.save w) = (.ok saved, t') ∧
      Store.Replaced s u.id (stored x.fields hash u) t' := by
  obtain ⟨hash, hhashed, rfl⟩ := saves
  obtain ⟨r, replaced, hcreated⟩ := behind.exists_replaced copied
  have hlive : (s.liveUser? u.id).isSome = true := by rw [copied.live]; rfl
  -- what is saved is live, as the copy is
  have hfits : Store.isLiveUser u.id (put x.fields hash u) = true := by
    have hu : u.isLive = true := by
      rw [copied.copy]
      exact (Store.isLiveUser_iff.1 (List.find?_some copied.live)).2
    exact Store.isLiveUser_iff.2 ⟨rfl, hu⟩
  -- its address is the new one or that of the copy, and both are free
  have hfree : s.emailTaken (put x.fields hash u).email u.id = false := by
    show s.emailTaken (x.fields.email <|> u.email) u.id = false
    have hfree := copied.free x hx
    cases hemail : x.fields.email with
    | none => exact copied.own
    | some email => rwa [hemail] at hfree
  obtain ⟨t', hcall, hreplaced⟩ := replaced.save hlive copied.key hfits hfree
  refine ⟨hash, _, t', hhashed, hcall, ?_⟩
  -- the row keeps its time of creation, which is that of the copy
  have hchanged : Store.changedUser r (put x.fields hash u) = (put x.fields hash u).refreshPasswordSet := by
    rw [Store.changedUser, hcreated]
    rfl
  rwa [hchanged] at hreplaced

/-- **One step keeps the invariant.** -/
theorem RowBehind.step (behind : RowBehind h s u row xs T y.before) (copied : Copied s u row xs) {k : Nat}
    (step : Meanwhile h u xs k y) : RowBehind h s u row xs (T ++ [(k, y)]) y.after := by
  -- who leaves the users alone leaves the row alone, and has not saved
  have hquiet (hsame : y.after.users = y.before.users) (hy : ∀ x ∈ xs, x.place = k → ¬ Saving y) :
      RowBehind h s u row xs (T ++ [(k, y)]) y.after := by
    cases behind with
    | copied none replaced => exact .copied (none.snoc hy) (replaced.of_users_eq hsame)
    | saved x hx last hash hashed replaced =>
      exact .saved x hx (last.snoc hy) hash hashed (replaced.of_users_eq hsame)
  rcases step with ⟨x, hx, rfl, asks, served⟩ | ⟨hother, hsame⟩
  · by_cases hy : Saving y
    · obtain ⟨w, heffect⟩ := hy
      obtain ⟨e, answer, before, after⟩ := y
      obtain rfl : e = .users (.save w) := heffect
      obtain ⟨hash, saved, t', hhashed, hcall, hreplaced⟩ := behind.save copied hx asks
      obtain ⟨-, rfl⟩ := Prod.mk.inj (hcall.symm.trans served)
      exact .saved x hx (lastSave_snoc ⟨w, rfl⟩) hash hhashed hreplaced
    · exact hquiet (users_eq_of_not_saving asks served hy) fun _ _ _ => hy
  · exact hquiet hsame fun x hx hk => absurd hk (hother x hx)

/-- **A run keeps the invariant.** -/
theorem rowBehind_of_run {b c : Crowd Store (Request × Job) (Except ServiceFailure Value)}
    (copied : Copied b.shared u row xs) (run : (service h).Run b T c)
    (meanwhile : ∀ k y, (k, y) ∈ T → Meanwhile h u xs k y) :
    RowBehind h b.shared u row xs T c.shared := by
  induction run with
  | start => exact .copied (fun _ _ _ hmem => nomatch hmem) (Store.replaced_self copied.live)
  | launch _ _ ih => exact ih meanwhile
  | step y _ _ now _ ih =>
    have hbefore := ih fun k z hz => meanwhile k z (List.mem_append_left _ hz)
    rw [← now] at hbefore
    exact hbefore.step copied (meanwhile _ y (by simp))

/-- Up to its own save, an editor with another address finds nobody who has it. -/
theorem RowBehind.getByEmail (behind : RowBehind h s u row xs T t) (copied : Copied s u row xs)
    (keyed : t.Keyed) (oneEmail : ∀ z ∈ xs, z.fields.email.isSome → z = x) (hx : x ∈ xs) {email : String}
    (hemail : x.fields.email = some email) (other : u.email ≠ some email)
    (quiet : ∀ y, (x.place, y) ∈ T → ¬ Saving y) : t.callUsers (.getByEmail email) = (.ok none, t) := by
  have hlive : (s.liveUser? u.id).isSome = true := by rw [copied.live]; rfl
  obtain ⟨r, replaced, hr⟩ : ∃ r, Store.Replaced s u.id r t ∧ r.email = u.email := by
    cases behind with
    | copied _ replaced => exact ⟨row, replaced, by rw [copied.copy]; rfl⟩
    | saved z hz last hash _ replaced =>
      refine ⟨_, replaced, ?_⟩
      cases hzEmail : z.fields.email with
      | none => rw [stored, Store.keptUser, User.refreshPasswordSet, put, hzEmail]; rfl
      | some _ =>
        -- only this editor has an address, and it has not saved
        obtain rfl := oneEmail z hz (by rw [hzEmail]; rfl)
        obtain ⟨y, hy, hsaving⟩ := last.exists_saving
        exact absurd hsaving (quiet y hy)
  refine Store.getByEmail_of_free keyed ?_ (replaced.liveUser? hlive) (hr ▸ other)
  rw [replaced.emailTaken, ← hemail]
  exact copied.free x hx

end Row

/-! ### The last save -/

/-- **The last save decides**: all updates succeed, and the row in the end is the copy with the fields of
    the last save put in. Whatever only the others had been given is lost. -/
structure LastSaveCounts (h : Hasher) (c : Crowd Store (Request × Job) (Except ServiceFailure Value))
    (T : Trace Store) (u : User) (xs : List Editor) : Prop where
  succeeds : ∀ x ∈ xs, ∀ value, c.Finished x.place (x.job u) value → ∃ saved, value = .ok (.user saved)
  counts : ∀ x ∈ xs, ∀ value, c.Finished x.place (x.job u) value →
    ∃ z ∈ xs, ∃ hash, LastSave xs T z ∧ Hashed h z.fields.password hash ∧
      c.shared.liveUser? u.id = some (stored z.fields hash u)

namespace Stale

variable {h : Hasher} {b c : Crowd Store (Request × Job) (Except ServiceFailure Value)} {T₁ T : Trace Store}
  {u row : User} {xs : List Editor} {x : Editor} {k : Nat} {y : Exchange Store}
  (stale : Stale h b c T u row xs) (run₁ : (service h).Run .nobody T₁ b) (run₂ : (service h).Run b T c)

include stale run₁

theorem copied : Copied b.shared u row xs := by
  have keyed := keyed_of_run run₁
  have hmem := (Store.liveUser?_eq_some keyed.nodup_users).1 stale.live
  refine ⟨stale.live, ?_, stale.copy, ?_, fun x hx => (stale.edits x hx).free⟩
  · rw [← hmem.2.1]
    exact Int.ne_of_gt (keyed.handed_of_mem hmem.1).1
  · have hown := (Store.uniqueEmails_of_run run₁).free keyed stale.live
    rwa [stale.copy] at hown ⊢

/-- An editor has not asked anything before. -/
theorem own_eq (hx : x ∈ xs) : (T₁ ++ T).own x.place = T.own x.place :=
  run₁.own_append_of_le (stale.edits x hx).begun

include run₂

theorem asks (hx : x ∈ xs) (hy : (x.place, y) ∈ T) : Asks h x.fields u y.effect := by
  obtain ⟨_, _, fields, hu, hd, hfields, hasks⟩ :=
    Update.asks_of_mem (run₁.trans run₂) (stale.edits x hx).job (List.mem_append_right T₁ hy)
  cases hu
  cases hd
  cases hfields.symm.trans (stale.edits x hx).checked
  exact hasks

theorem meanwhile (hy : (k, y) ∈ T) : Meanwhile h u xs k y := by
  by_cases hk : ∃ x ∈ xs, x.place = k
  · obtain ⟨x, hx, rfl⟩ := hk
    exact .inl ⟨x, hx, rfl, stale.asks run₁ run₂ hx hy, (stale.edits x hx).served y hy⟩
  · have hother (x : Editor) (hx : x ∈ xs) : x.place ≠ k := fun heq => hk ⟨x, hx, heq⟩
    exact .inr ⟨hother, stale.others k y hy hother⟩

/-- The row of the user in front of an exchange. -/
theorem rowBehind_of_mem (hy : (k, y) ∈ T) :
    ∃ A B, T = A ++ (k, y) :: B ∧ RowBehind h b.shared u row xs A y.before := by
  obtain ⟨A, B, c', rfl, run, hbefore, -⟩ := run₂.cut hy
  have hbehind := rowBehind_of_run (stale.copied run₁) run fun j z hz =>
    stale.meanwhile run₁ run₂ (List.mem_append_left _ hz)
  rw [hbefore] at hbehind
  exact ⟨A, B, rfl, hbehind⟩

/-- **No update fails.** -/
theorem succeeds (hx : x ∈ xs) {value : Except ServiceFailure Value}
    (finished : c.Finished x.place (x.job u) value) :
    ∃ saved, value = .ok (.user saved) ∧ ∃ y, (x.place, y) ∈ T ∧ Saving y := by
  have hedits := stale.edits x hx
  obtain ⟨result, rfl, houtcome⟩ := Update.outcome_of_finished (run₁.trans run₂) finished
  rw [stale.own_eq run₁ hx] at houtcome
  cases houtcome with
  | invalid rejection fault => exact absurd hedits.checked (fault u x.draft x.fields rfl rfl)
  | taken email v before after found quiet =>
    -- whoever has the address would be another user, or this one behind the save of another address
    have hy := Trace.mem_own.1 found
    obtain ⟨hemail, hother⟩ := stale.asks run₁ run₂ hx hy
    obtain ⟨A, B, hT, hbehind⟩ := stale.rowBehind_of_mem run₁ run₂ hy
    have honly (z : Editor) (hz : z ∈ xs) (hzEmail : z.fields.email.isSome = true) : z = x :=
      stale.oneEmail z hz x hx hzEmail (by rw [hemail]; rfl)
    have hquiet (y : Exchange Store) (hy : (x.place, y) ∈ A) : ¬ Saving y := by
      rintro ⟨w, hw⟩
      exact quiet y (Trace.mem_own.2 (hT ▸ List.mem_append_left _ hy)) w hw
    have keyed : before.Keyed := keyed_of_mem (run₁.trans run₂) (List.mem_append_right T₁ hy)
    have hnone := hbehind.getByEmail (stale.copied run₁) keyed honly hx hemail hother hquiet
    have hfound : before.callUsers (.getByEmail email) = (.ok (some v), after) := hedits.served _ hy
    cases hnone.symm.trans hfound
  | lookupFailed email f before after answer =>
    have hfailed : before.callUsers (.getByEmail email) = (.error f, after) :=
      hedits.served _ (Trace.mem_own.1 answer)
    cases hfailed
  | unhashed d fields password salt e hd hfields hpassword refused =>
    cases hd
    cases hfields.symm.trans hedits.checked
    obtain ⟨hash, hcreate⟩ := hedits.hashes password salt hpassword
    cases hcreate.symm.trans refused
  | saveFailed f y save failed =>
    obtain ⟨w, before, after, rfl⟩ := failed
    have hy := Trace.mem_own.1 save.1
    obtain ⟨_, _, _, hbehind⟩ := stale.rowBehind_of_mem run₁ run₂ hy
    obtain ⟨_, saved, t', -, hsaved, -⟩ := hbehind.save (stale.copied run₁) hx (stale.asks run₁ run₂ hx hy)
    have hfailed : before.callUsers (.save w) = (.error f, after) := hedits.served _ hy
    cases hsaved.symm.trans hfailed
  | signOutFailed call f before after answer =>
    have hy := Trace.mem_own.1 answer
    have hasks := stale.asks run₁ run₂ hx hy
    have hfailed : before.callSessions call = (.error f, after) := hedits.served _ hy
    cases call with
    | create | getById => exact hasks.elim
    | listActive userId now => cases hfailed
    | delete z =>
      simp only [Store.callSessions, Store.deleteSession] at hfailed
      split at hfailed <;> cases hfailed
  | done w saved before after save => exact ⟨saved, rfl, _, Trace.mem_own.1 save.1, w, rfl⟩

end Stale

/-- **Of several updates of one copy, the last save decides about every field**, in whatever order their
    steps follow each other. -/
theorem last_save_counts {h : Hasher} {b c : Crowd Store (Request × Job) (Except ServiceFailure Value)}
    {T₁ T : Trace Store} {u row : User} {xs : List Editor} (run₁ : (service h).Run .nobody T₁ b)
    (run₂ : (service h).Run b T c) (stale : Stale h b c T u row xs) : LastSaveCounts h c T u xs where
  succeeds := by
    intro x hx value finished
    obtain ⟨saved, hvalue, -⟩ := stale.succeeds run₁ run₂ hx finished
    exact ⟨saved, hvalue⟩
  counts := by
    intro x hx value finished
    obtain ⟨-, -, y, hy, hsaving⟩ := stale.succeeds run₁ run₂ hx finished
    have hlive : (b.shared.liveUser? u.id).isSome = true := by rw [stale.live]; rfl
    have hbehind := rowBehind_of_run (stale.copied run₁) run₂ fun k z hz => stale.meanwhile run₁ run₂ hz
    cases hbehind with
    | copied none => exact absurd hsaving (none x hx y hy)
    | saved z hz last hash hashed replaced =>
      exact ⟨z, hz, hash, last, hashed, replaced.liveUser? hlive⟩

/-! ### A new password and a new name -/

/-- What is left of an update once its draft is checked. -/
def revise (h : Hasher) (r : Request) (u : User) (active : Option Session) (fields : Fields) :
    Service User := do
  let u ← takeEmail fields u
  let u ← takePassword h updateContext fields u
  let saved ← save { u with
    givenNames := fields.givenNames <|> u.givenNames
    surname := fields.surname <|> u.surname }
  if fields.password.isSome then signOutOthers r saved active
  return saved

theorem update_of_check {d : UserDraft} {fields : Fields} (hfields : check d = .ok fields) (h : Hasher)
    (r : Request) (u : User) (active : Option Session) :
    update h r (some u) active (some d) = revise h r u active fields := by
  show (Service.checked (check d) >>= _) = _
  rw [hfields]
  rfl

/-- The user behind the sign-up with an address. -/
def ann : User := { User.new with id := 1, createdAt := ⟨1704067201, 0⟩, email := some "ann@example.com" }

theorem liveUser?_ann : addressStore.liveUser? 1 = some ann := by decide +kernel

/-- A request that gives the user a password. -/
def securing : Editor where
  place := 1
  request := .new "r" .epoch
  active := none
  draft := ⟨none, some "secret", none, none⟩
  fields := ⟨none, some "secret", none, none⟩

/-- A request that gives the user a surname. -/
def naming : Editor where
  place := 2
  request := .new "r" .epoch
  active := none
  draft := ⟨none, none, none, some "Smith"⟩
  fields := ⟨none, none, none, some "SMITH"⟩

theorem check_securing : check securing.draft = .ok securing.fields := by
  have hpassword : Field.password "secret" = .ok "secret" := by decide +kernel
  show (do let password ← (Field.password "secret").map some; _) = _
  rw [hpassword]
  rfl

theorem check_naming : check naming.draft = .ok naming.fields := by
  have hsurname : Field.surname "Smith" = .ok "SMITH" := by decide +kernel
  show (do let surname ← (Field.surname "Smith").map some; _) = _
  rw [hsurname]
  rfl

/-- What is left of an editor's job once its draft is checked. -/
def Editor.rest (h : Hasher) (u : User) (x : Editor) : Program (Except ServiceFailure Value) :=
  (do return Value.user (← revise h x.request u x.active x.fields) : Service Value).run

theorem program_of_check {x : Editor} (hfields : check x.draft = .ok x.fields) (h : Hasher) (u : User) :
    (service h).program (x.job u) = x.rest h u := by
  show (update h x.request (some u) x.active (some x.draft) >>= _ : Service Value).run = _
  rw [update_of_check hfields]
  rfl

/-- If first the password is set and then the name, both on the copy that was made before, there is no
    password in the end. -/
theorem liveUser?_naming :
    ((naming.rest plainHasher ann).runOn (.calm .epoch)
      ((securing.rest plainHasher ann).runOn (.calm .epoch) addressStore).2).2.liveUser? 1
      = some { ann with surname := some "SMITH" } := by
  decide +kernel

/-- A run in which this happens. -/
theorem run_securing_naming : ∃ T₁ b T c v₁ v₂, (service plainHasher).Run .nobody T₁ b ∧
    (service plainHasher).Run b T c ∧ Stale plainHasher b c T ann ann [securing, naming] ∧
    c.Finished 1 (securing.job ann) v₁ ∧ c.Finished 2 (naming.job ann) v₂ ∧
    c.shared.liveUser? 1 = some { ann with surname := some "SMITH" } := by
  obtain ⟨T₁, value, signedUp⟩ := run_addressSignUp
  have copied : (service plainHasher).Run
      ⟨addressStore, [⟨(.new "r" .epoch, .signUp (some addressDraft)), .done value⟩]⟩ [] _ := .start
  have launched := (copied.launch (securing.job ann)).launch (naming.job ann)
  rw [program_of_check check_securing, program_of_check check_naming] at launched
  have hrow := liveUser?_naming
  -- what the two come to is named before they run
  generalize securing.rest plainHasher ann = p₁ at launched hrow
  generalize naming.rest plainHasher ann = p₂ at launched hrow
  obtain ⟨T₂, secured, hT₂⟩ := launched.undisturbed (i := 1) (.calm .epoch) rfl
  obtain ⟨T₃, named, hT₃⟩ := secured.undisturbed (i := 2) (.calm .epoch) rfl
  have hsteps (k : Nat) (y : Exchange Store) (hy : (k, y) ∈ [] ++ T₂ ++ T₃) :
      (k = 1 ∨ k = 2) ∧ y.Served := by
    rcases List.mem_append.1 hy with hy | hy
    · exact (hT₂ _ hy).imp_left .inl
    · exact (hT₃ _ hy).imp_left .inr
  refine ⟨T₁, _, _, _, _, _, signedUp, named, ?_, rfl, rfl, hrow⟩
  refine ⟨liveUser?_ann, rfl, ?_, ?_, ?_⟩
  · intro x hx
    rcases List.mem_pair.1 hx with rfl | rfl
    · exact ⟨Nat.le_refl 1, rfl, check_securing, rfl, fun password salt _ => ⟨password, rfl⟩,
        fun y hy => (hsteps 1 y hy).2⟩
    · exact ⟨Nat.le_succ 1, rfl, check_naming, rfl, fun password salt _ => ⟨password, rfl⟩,
        fun y hy => (hsteps 2 y hy).2⟩
  · intro k y hy hother
    rcases (hsteps k y hy).1 with rfl | rfl
    · exact absurd rfl (hother securing (by simp))
    · exact absurd rfl (hother naming (by simp))
  · intro x hx z hz hxEmail
    rcases List.mem_pair.1 hx with rfl | rfl <;> cases hxEmail

theorem last_save_counts_naming : ∃ T₁ b T c, (service plainHasher).Run .nobody T₁ b ∧
    (service plainHasher).Run b T c ∧ Stale plainHasher b c T ann ann [securing, naming] ∧
    LastSaveCounts plainHasher c T ann [securing, naming] := by
  obtain ⟨T₁, b, T, c, v₁, v₂, run₁, run₂, stale, -⟩ := run_securing_naming
  exact ⟨T₁, b, T, c, run₁, run₂, stale, last_save_counts run₁ run₂ stale⟩

/-! ### What one might expect -/

/-- The row carries whatever the draft has supplied. -/
structure Carries (h : Hasher) (fields : Fields) (r : User) : Prop where
  email : ∀ email, fields.email = some email → r.email = some email
  password : ∀ password, fields.password = some password →
    ∃ salt hash, h.create salt password = .ok hash ∧ r.passwordHash = some hash
  givenNames : ∀ name, fields.givenNames = some name → r.givenNames = some name
  surname : ∀ name, fields.surname = some name → r.surname = some name

/-- No field is supplied in both drafts. -/
structure Fields.Disjoint (a b : Fields) : Prop where
  email : a.email = none ∨ b.email = none
  password : a.password = none ∨ b.password = none
  givenNames : a.givenNames = none ∨ b.givenNames = none
  surname : a.surname = none ∨ b.surname = none

/-- No update is lost: two updates of one copy with different fields both succeed, and the row carries the
    fields of both. -/
def NoLostUpdate (h : Hasher) : Prop :=
  ∀ (T₁ T : Trace Store) (b c : Crowd Store (Request × Job) (Except ServiceFailure Value)) (u row : User)
    (x z : Editor) (v₁ v₂ : Except ServiceFailure Value),
    (service h).Run .nobody T₁ b → (service h).Run b T c → Stale h b c T u row [x, z] →
    x.fields.Disjoint z.fields → c.Finished x.place (x.job u) v₁ → c.Finished z.place (z.job u) v₂ →
    (∃ saved, v₁ = .ok (.user saved)) ∧ (∃ saved, v₂ = .ok (.user saved)) ∧
      ∃ r, c.shared.liveUser? u.id = some r ∧ Carries h x.fields r ∧ Carries h z.fields r

/-- **An update can be lost**: a change of the name takes away the password that was set meanwhile. -/
theorem not_noLostUpdate : ¬ NoLostUpdate plainHasher := by
  intro claim
  obtain ⟨T₁, b, T, c, v₁, v₂, run₁, run₂, stale, secured, named, hrow⟩ := run_securing_naming
  obtain ⟨-, -, r, hr, hsecuring, -⟩ := claim T₁ T b c ann ann securing naming v₁ v₂ run₁ run₂ stale
    ⟨.inl rfl, .inr rfl, .inl rfl, .inl rfl⟩ secured named
  obtain ⟨salt, hash, -, hhash⟩ := hsecuring.password "secret" rfl
  -- in the end there is no hash at all, as in the copy
  obtain rfl := Option.some.inj (hr.symm.trans hrow)
  cases hhash

end Turnstile.Accounts
