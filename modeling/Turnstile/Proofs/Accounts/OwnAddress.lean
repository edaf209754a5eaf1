import Turnstile.Proofs.Accounts.StaleCopy
import Turnstile.Proofs.Service.Faithful

namespace Turnstile

open Credential (Hasher)

/-!
# Whose address is in use

An update looks up another address than that of the record which it was given, and is rejected if somebody
has it. What it is given may be out of date, and then the one who has the address may be the user itself.

* `Exchange.Stores` holds of the exchanges that put a record into the table of users, and
  `Store.stores_of_gained` finds the one by which a user has come to have an address.
* `Accounts.Outdated` says that this has happened behind the exchange that told of a record.
* `Accounts.userEmailExists_whose`: an update of a record that an operation has given is rejected only
  for the address of another live user, or with an outdated record.
* `Accounts.OwnAddressFree` is what one might expect instead, and `Accounts.not_ownAddressFree` refutes
  it: the same change of the address, submitted twice.
-/

/-! ### Who comes to have an address -/

/-- The exchange puts the record of a user into the table. -/
inductive Exchange.Stores (v : User) : Exchange Store → Prop where
  | created (u : User) (before after : Store) : Stores v ⟨.users (.create u), .ok v, before, after⟩
  | saved (u : User) (before after : Store) : Stores v ⟨.users (.save u), .ok v, before, after⟩

namespace Store

variable {x : Exchange Store} {v row : User} {email : String} {id : Id}

/-- **A row behind an exchange** was there before, or is marked as deleted, or was put there. -/
theorem row_of_answers (answers : x.before.Answers x.effect x.answer x.after) (hrow : row ∈ x.after.users) :
    row ∈ x.before.users ∨ row.isLive = false ∨ ∃ v, x.Stores v ∧ row = keptUser v := by
  obtain ⟨e, answer, s, s'⟩ := x
  have same (hsame : s'.users = s.users) : row ∈ s.users := hsame ▸ hrow
  -- an insertion appends one row, whatever call it is made by
  have inserted {call : UserCall} {u v : User} (hcall : s.createUser call u = (.ok v, s')) :
      row ∈ s.users ∨ row = keptUser v := by
    rw [show s'.users = s.users ++ [keptUser v] from (create_user_ok hcall).2, List.mem_append,
      List.mem_singleton] at hrow
    exact hrow
  cases e with
  | users call =>
    rcases answer with f | result
    · exact .inl (same (congrArg users answers.eq_of_error))
    have hcall : s.callUsers call = (.ok result, s') := answers.callUsers_of_ok
    cases call with
    | create u =>
      rcases inserted hcall with hold | hnew
      · exact .inl hold
      · exact .inr (.inr ⟨result, .created u s s', hnew⟩)
    | save u =>
      by_cases key : u.id = 0
      · simp only [callUsers, if_pos key] at hcall
        rcases inserted hcall with hold | hnew
        · exact .inl hold
        · exact .inr (.inr ⟨result, .saved u s s', hnew⟩)
      · obtain ⟨old, -, -, husers⟩ := replace_user_ok hcall key
        rcases mem_changeFirst (husers ▸ hrow) with hold | ⟨_, -, -, hnew⟩
        · exact .inl hold
        · exact .inr (.inr ⟨result, .saved u s s', hnew⟩)
    | delete u =>
      rcases delete_user_ok hcall with ⟨-, -, rfl⟩ | ⟨old, -, -, husers⟩
      · exact .inl hrow
      · rcases mem_changeFirst (husers ▸ hrow) with hold | ⟨_, -, -, rfl⟩
        · exact .inl hold
        · exact .inr (.inl rfl)
    | getById id =>
      cases hcall
      exact .inl hrow
    | getByEmail email =>
      cases hcall
      exact .inl hrow
  | sessions call =>
    refine .inl (same ?_)
    rcases answers with hcall | ⟨-, hsame⟩
    · rw [← s.callSessions_users call, show s.callSessions call = (answer, s') from hcall]
    · exact congrArg users hsame
  | _ => exact .inl (same (congrArg users (answers.elim id fun h => h.elim)))

/-- **Whoever comes to have an address** by an exchange has been put into the table with it. -/
theorem stores_of_gained (unique : x.before.UniqueEmails) (unique' : x.after.UniqueEmails)
    (answers : x.before.Answers x.effect x.answer x.after) (free : x.before.emailHolder? email ≠ some id)
    (holder : x.after.emailHolder? email = some id) :
    ∃ v, x.Stores v ∧ v.id = id ∧ v.email = some email := by
  obtain ⟨row, hrow, hid, hhas⟩ := unique'.emailHolder?_eq_some.1 holder
  rcases row_of_answers answers hrow with hold | dead | ⟨v, hstores, rfl⟩
  · exact absurd (unique.emailHolder?_eq_some.2 ⟨row, hold, hid, hhas⟩) free
  · exact absurd (hasEmail_iff.1 hhas).2 (by rw [dead]; exact Bool.false_ne_true)
  · exact ⟨v, hstores, hid, (hasEmail_iff.1 hhas).1⟩

/-- Behind an exchange that tells of a user, a live row of the user has the address of the record. -/
theorem email_of_tells (keyed : x.before.Keyed) (answers : x.before.Answers x.effect x.answer x.after)
    (tells : x.Tells v) (live : x.after.liveUser? v.id = some row) : row.email = v.email := by
  have keyed' := answers.keyed keyed
  obtain ⟨hrow, hid, -⟩ := (liveUser?_eq_some keyed'.nodup_users).1 live
  -- there is no other row with the key than the one that was found or put there
  have same {row' : User} (hrow' : row' ∈ x.after.users) (hid' : row'.id = v.id)
      (hemail : row'.email = v.email) : row.email = v.email := by
    rw [List.inj_on_of_nodup_map keyed'.nodup_users hrow hrow' (hid.trans hid'.symm), hemail]
  cases tells with
  | found id before after =>
    obtain ⟨hfound, hsame⟩ := Prod.mk.inj answers.callUsers_of_ok
    obtain ⟨row', hrow', rfl⟩ := Option.map_eq_some_iff.1 (Except.ok.inj hfound)
    have hmem : row' ∈ after.users := by
      rw [← show before = after from hsame]
      exact List.mem_of_find?_eq_some hrow'
    exact same hmem rfl rfl
  | created u before after =>
    have hmem : keptUser v ∈ after.users := by
      rw [(create_user_ok answers.callUsers_of_ok).2]
      exact List.mem_append_right _ List.mem_cons_self
    exact same hmem rfl rfl
  | saved u before after => exact same (saved_user_mem keyed answers.callUsers_of_ok) rfl rfl
  | deleted u before after =>
    obtain ⟨hkey, hnone⟩ := deleted_user_dead answers.callUsers_of_ok keyed
    rw [hkey, hnone] at live
    cases live

/-- Behind an exchange that tells of a user, the user does not have another address. -/
theorem not_holder_of_tells (keyed : x.before.Keyed) (unique : x.before.UniqueEmails)
    (answers : x.before.Answers x.effect x.answer x.after) (tells : x.Tells v)
    (other : v.email ≠ some email) : x.after.emailHolder? email ≠ some v.id := by
  intro holder
  obtain ⟨row, hrow, hid, hhas⟩ := (answers.uniqueEmails keyed unique).emailHolder?_eq_some.1 holder
  obtain ⟨hemail, hlive⟩ := hasEmail_iff.1 hhas
  have live := (liveUser?_eq_some (answers.keyed keyed).nodup_users).2 ⟨hrow, hid, hlive⟩
  exact other ((email_of_tells keyed answers tells live).symm.trans hemail)

/-- **Between a record and another address** there is an exchange that has put the user into the table
    with this address. -/
theorem exists_stores_of_holder {h : Hasher} {A B : Trace Store} {k : Nat}
    {c : Crowd Store (Request × Job) (Except ServiceFailure Value)}
    (run : (service h).Run .nobody (A ++ (k, x) :: B) c) (tells : x.Tells v) (other : v.email ≠ some email)
    (holder : c.shared.emailHolder? email = some v.id) :
    ∃ j y w, (j, y) ∈ B ∧ y.Stores w ∧ w.id = v.id ∧ w.email = some email := by
  have hx : (k, x) ∈ A ++ (k, x) :: B := List.mem_append_right A List.mem_cons_self
  obtain ⟨b, hb, hrest⟩ := run.parts (List.append_cons A (k, x) B)
  obtain ⟨_, -, hlast⟩ := hb.parts rfl
  obtain ⟨-, answers, hafter⟩ := hlast.shared_of_single
  have start : b.shared.emailHolder? email ≠ some v.id := by
    rw [hafter]
    exact not_holder_of_tells (keyed_of_mem run hx) (uniqueEmails_of_mem run hx) answers tells other
  -- at some point behind the record the user has come to have the address
  obtain ⟨j, y, hy, answers', hfree, hheld⟩ := hrest.exists_turn
    (P := fun s => s.emailHolder? email ≠ some v.id) start (not_not.2 holder)
  have hmem : (j, y) ∈ A ++ (k, x) :: B := List.mem_append_right A (List.mem_cons_of_mem _ hy)
  have unique := uniqueEmails_of_mem run hmem
  obtain ⟨w, hstores⟩ := stores_of_gained unique
    (Store.Answers.uniqueEmails answers' (keyed_of_mem run hmem) unique) answers' hfree (not_not.1 hheld)
  exact ⟨j, y, w, hy, hstores⟩

end Store

namespace Accounts

/-! ### What the update was told -/

/-- The record was told, and wherever it was, its user has been put into the table with the address since. -/
structure Outdated (T : Trace Store) (u : User) (email : String) : Prop where
  told : ∃ k x, (k, x) ∈ T ∧ x.Tells u
  since : ∀ A k x B, T = A ++ (k, x) :: B → x.Tells u →
    ∃ j y v, (j, y) ∈ B ∧ y.Stores v ∧ v.id = u.id ∧ v.email = some email

/-- **Somebody has the address** that the draft of a task asks for: when the task looked it up, it was
    that of a live row, which is not the row of the user whose record was given, unless that record was
    outdated. -/
inductive InUse (T : Trace Store) (i : Nat) (u : User) (draft : Option UserDraft) : Prop where
  | intro (d : UserDraft) (raw : String) (asked : draft = some d ∧ d.email = some raw)
      (other : u.email ≠ some (Email.canonical raw)) (x : Exchange Store) (A B : Trace Store)
      (looked : T = A ++ (i, x) :: B ∧ x.effect = .users (.getByEmail (Email.canonical raw)))
      (row : User) (mem : row ∈ x.before.users)
      (has : row.isLive = true ∧ row.email = some (Email.canonical raw))
      (whose : row.id ≠ u.id ∨ Outdated A u (Email.canonical raw))

section Task

variable {h : Hasher} {T T₁ T₂ : Trace Store}
  {b c : Crowd Store (Request × Job) (Except ServiceFailure Value)} {i : Nat} {r : Request} {u : User}
  {active : Option Session} {draft : Option UserDraft}

/-- An update without a draft that can be checked is over at once. No rule for a field speaks of addresses in
    use. -/
theorem Update.program_of_fault (h : Hasher) (r : Request) (u : User) (active : Option Session)
    (fault : ∀ d fields, draft = some d → check d ≠ .ok fields) :
    ∃ rejection, rejection ≠ .userEmailExists ∧
      (service h).program (r, .update (some u) active draft) = .done (.error (.rejected rejection)) := by
  cases draft with
  | none => exact ⟨.userUpdateParamsMissing, by decide, rfl⟩
  | some d =>
    cases hcheck : check d with
    | ok fields => exact absurd hcheck (fault d fields rfl)
    | error rejection =>
      refine ⟨rejection, fun heq => check_ne_userEmailExists d (heq ▸ hcheck), ?_⟩
      show ((Service.checked (check d) >>= fun fields => revise h r u active fields) >>= _ :
        Service Value).run = _
      rw [hcheck]
      rfl

/-- An update that is rejected because of an address has looked it up, and found somebody. -/
theorem Update.taken_of_finished (run : (service h).Run .nobody T c)
    (finished : c.Finished i (r, .update (some u) active draft) (.error (.rejected .userEmailExists))) :
    ∃ email v before after, (i, ⟨.users (.getByEmail email), .ok (some v), before, after⟩) ∈ T := by
  obtain ⟨result, hresult, houtcome⟩ := Update.outcome_of_finished run finished
  cases houtcome with
  | invalid rejection fault quiet =>
    obtain ⟨rejection', hother, hprogram⟩ := Update.program_of_fault h r u active fun d fields =>
      fault u d fields rfl
    have hleads := run.leads finished
    rw [hprogram, Program.leads_done] at hleads
    cases hleads.2
    exact absurd rfl hother
  | taken email v before after found quiet => exact ⟨email, v, before, after, Trace.mem_own.1 found⟩
  | saveFailed f x save failed =>
    -- a save that fails is told of in other words
    have hfailure := Except.error.inj hresult
    rw [saveFailure] at hfailure
    split at hfailure <;> cases hfailure
  | lookupFailed | unhashed | signOutFailed | done => cases hresult

/-- **Whose address it is** that an update is rejected for, whatever others do at the same time: that of
    another live user, or the user's own, which it has been given since the record was told. -/
theorem userEmailExists_whose (run₁ : (service h).Run .nobody T₁ b) (gave : b.Gave u)
    (run₂ : (service h).Run b T₂ c) (later : b.tasks.length ≤ i) {verified : Bool}
    (finished : c.Finished i (r, .update (some { u with emailVerified := verified }) active draft)
      (.error (.rejected .userEmailExists))) : InUse (T₁ ++ T₂) i u draft := by
  have run := run₁.trans run₂
  obtain ⟨email, v, before, after, hlooked⟩ := Update.taken_of_finished run finished
  obtain ⟨_, d, fields, ⟨⟩, rfl, hfields, hemail, hother⟩ :=
    Update.asks_of_mem run (Crowd.job?_of_task finished) hlooked
  obtain ⟨raw, hraw, hrule⟩ := email_of_check hfields hemail
  obtain rfl := (email_eq_ok_iff.1 hrule).1
  -- the lookup belongs to the second part of the run, so whatever has told of the record comes before it
  rw [← Trace.mem_own, run₁.own_append_of_le later, Trace.mem_own] at hlooked
  obtain ⟨A, B, c', rfl, hrun, hbefore, -⟩ := run₂.cut hlooked
  have run' := run₁.trans hrun
  obtain ⟨found, hcall, hholder⟩ := before.getByEmail_answer (Email.canonical raw)
  have hanswer := hcall.symm.trans (run₂.answers_of_mem hlooked).callUsers_of_ok
  obtain rfl : found = some v := Except.ok.inj (Prod.mk.inj hanswer).1
  have unique : before.UniqueEmails := by
    rw [← show c'.shared = before from hbefore]
    exact Store.uniqueEmails_of_run run'
  obtain ⟨row, hrow, hid, hhas⟩ := unique.emailHolder?_eq_some.1 hholder.symm
  refine .intro d raw ⟨rfl, hraw⟩ hother _ (T₁ ++ A) B ⟨(List.append_assoc ..).symm, rfl⟩ row hrow
    (Store.hasEmail_iff.1 hhas).symm ?_
  by_cases hown : row.id = u.id
  · obtain ⟨k, job, value, hgave, hvalue⟩ := gave
    obtain ⟨x, hx, htells⟩ := FaithfulRun.told_of_finished run₁ hgave hvalue
    refine .inr ⟨⟨k, x, List.mem_append_left _ hx, htells⟩, ?_⟩
    rintro A' k' x' B' hsplit htells'
    rw [hsplit] at run'
    refine Store.exists_stores_of_holder run' htells' hother ?_
    rw [show c'.shared = before from hbefore, ← hholder]
    exact congrArg some (hid.symm.trans hown)
  · exact .inl hown

end Task

/-! ### The same change, submitted twice -/

/-- A request that gives the user another address. -/
def moving : Editor where
  place := 1
  request := .new "r" .epoch
  active := none
  draft := ⟨some " New@Example.com ", none, none, none⟩
  fields := ⟨some "new@example.com", none, none, none⟩

theorem check_moving : check moving.draft = .ok moving.fields := by
  have hemail : Field.email " New@Example.com " = .ok "new@example.com" :=
    email_eq_ok_iff.2 ⟨by decide +kernel, by decide +kernel, by decide +kernel⟩
  show (do let email ← (Field.email " New@Example.com ").map some; _) = _
  rw [hemail]
  rfl

/-- The store behind the first request. -/
def movedStore : Store := ((moving.rest plainHasher ann).runOn (.calm .epoch) addressStore).2

/-- The row has the new address, and there is no other row. -/
theorem users_movedStore : movedStore.users = [{ ann with email := some "new@example.com" }] := by
  decide +kernel

/-- The second request, with the same record, is rejected. -/
theorem runOn_moving_again :
    (revise plainHasher moving.request ann moving.active moving.fields).runOn (.calm .epoch) movedStore
      = (.error (.rejected .userEmailExists), movedStore) := by
  rfl

/-- A user signs up and changes the address. -/
theorem run_movedStore : ∃ T b, (service plainHasher).Run .nobody T b ∧ b.shared = movedStore ∧
    b.tasks.length = 2 ∧ b.Gave ann := by
  have opened : (service plainHasher).Run .nobody [] .nobody := .start
  have launched := opened.launch (.new "r" .epoch, .signUp (some addressDraft))
  rw [program_addressSignUp] at launched
  obtain ⟨T₁, signedUp, -⟩ := launched.undisturbed (i := 0) (.calm .epoch) rfl
  have relaunched := signedUp.launch (moving.job ann)
  rw [program_of_check check_moving] at relaunched
  obtain ⟨T₂, moved, -⟩ := relaunched.undisturbed (i := 1) (.calm .epoch) rfl
  exact ⟨_, _, moved, rfl, rfl, 0, _, .user ann, rfl, rfl⟩

theorem userEmailExists_whose_moving : ∃ T₁ b T₂ c, (service plainHasher).Run .nobody T₁ b ∧ b.Gave ann ∧
    (service plainHasher).Run b T₂ c ∧ b.tasks.length ≤ 2 ∧
    c.Finished 2 (moving.job ann) (.error (.rejected .userEmailExists)) ∧
    InUse (T₁ ++ T₂) 2 ann (some moving.draft) := by
  obtain ⟨T₁, b, run₁, hstore, hlength, gave⟩ := run_movedStore
  have copied : (service plainHasher).Run b [] b := .start
  have launched := copied.launch (moving.job ann)
  rw [program_of_check check_moving] at launched
  have task : (b.tasks ++ [⟨moving.job ann, moving.rest plainHasher ann⟩])[2]?
      = some ⟨moving.job ann, moving.rest plainHasher ann⟩ := by
    rw [← hlength, List.getElem?_concat_length]
  obtain ⟨T₂, run₂, -⟩ := launched.undisturbed (i := 2) (.calm .epoch) task
  have rejected : ((moving.rest plainHasher ann).runOn (.calm .epoch) b.shared).1
      = .error (.rejected .userEmailExists) := by
    rw [hstore]
    show ((revise _ _ _ _ _ >>= _ : Service Value).runOn _ _).1 = _
    rw [Service.runOn_bind, runOn_moving_again]
    rfl
  have finished := List.getElem?_set_self (a := Task.mk (moving.job ann)
    (.done ((moving.rest plainHasher ann).runOn (.calm .epoch) b.shared).1))
    (List.getElem?_eq_some_iff.1 task).1
  rw [rejected] at run₂ finished
  exact ⟨T₁, b, _, _, run₁, gave, run₂, Nat.le_of_eq hlength, finished,
    userEmailExists_whose run₁ gave run₂ (Nat.le_of_eq hlength) finished⟩

/-! ### What one might expect -/

/-- A user's own address is never in use: whatever copy of the record of a live user an update is given,
    it is rejected only if another live user has the address that its draft asks for. -/
def OwnAddressFree (h : Hasher) : Prop :=
  ∀ (T : Trace Store) (b : Crowd Store (Request × Job) (Except ServiceFailure Value)) (u row : User)
    (r : Request) (o : Surroundings) (active : Option Session) (draft : Option UserDraft),
    (service h).Run .nobody T b → b.Gave u → b.shared.liveUser? u.id = some row →
    ((update h r (some u) active draft).runOn o b.shared).1 = .error (.rejected .userEmailExists) →
    ∃ d raw, draft = some d ∧ d.email = some raw ∧
      ∃ v ∈ b.shared.users, v.isLive = true ∧ v.id ≠ u.id ∧ v.email = some (Email.canonical raw)

/-- **A user's own address can be in use**: a change of the address that is submitted twice is rejected the
    second time. -/
theorem not_ownAddressFree : ¬ OwnAddressFree plainHasher := by
  intro claim
  obtain ⟨T, b, run, hstore, -, gave⟩ := run_movedStore
  have live : movedStore.liveUser? 1 = some { ann with email := some "new@example.com" } := by
    rw [Store.liveUser?, users_movedStore]
    rfl
  have rejected : ((update plainHasher moving.request (some ann) moving.active (some moving.draft)).runOn
      (.calm .epoch) movedStore).1 = .error (.rejected .userEmailExists) := by
    rw [update_of_check check_moving, runOn_moving_again]
  rw [← hstore] at live rejected
  obtain ⟨_, _, -, -, v, hv, -, hother, -⟩ := claim T b ann _ _ _ _ _ run gave live rejected
  -- the only row is that of the user
  rw [hstore, users_movedStore, List.mem_singleton] at hv
  rw [hv] at hother
  exact hother rfl

end Accounts

end Turnstile
