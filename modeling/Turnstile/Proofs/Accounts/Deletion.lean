import Turnstile.Proofs.Accounts.Enrolment
import Turnstile.Proofs.Store.Deleted

namespace Turnstile.Accounts

open Credential (Hasher)

/-!
# A deletion is final

A user is deleted by a mark on its row. Nothing takes the mark off again, whatever other requests were
holding at that time: old copies of the user, sign-ins that have already found it, sessions without expiry.

* `Deletes` is the exchange that marks the row, and `Gone` says what holds from then on.
* `runOn_create_of_free`: a sign-up by itself takes a free address.
* `deletion_final` is the proof.
-/

/-! ### What is claimed -/

/-- The exchange deletes a live user, and leaves the row like this. -/
def Deletes (x : Exchange Store) (row : User) : Prop :=
  ∃ v old, x.effect = .users (.delete v) ∧ x.Served ∧ x.before.liveUser? v.id = some old ∧
    row = x.before.markedUser old

/-- **The user is gone for good**, in a run that has gone on from the deletion. -/
structure Gone (h : Hasher) (x : Exchange Store) (row : User) (T : Trace Store)
    (c : Crowd Store (Request × Job) (Except ServiceFailure Value)) : Prop where
  /-- The row is as the deletion has left it, and there is no other with its key. -/
  kept : row.isLive = false ∧ row ∈ c.shared.users ∧ ∀ u ∈ c.shared.users, u.id = row.id → u = row
  /-- No lookup finds the user. -/
  hidden : ∀ i y v, (i, y) ∈ T → y.Finds v → v.id ≠ row.id
  /-- Nobody gets the user: there is none, unless the lookup has failed. -/
  unknown : ∀ i r value y, c.Finished i (r, .getUser row.id) value → (i, y) ∈ T →
    (∀ v, value ≠ .ok v) ∧ (y.Served → value = .error (.rejected .userNotFound))
  /-- Nor does a request that comes later. -/
  unknownLater : ∀ o, (get row.id).runOn o c.shared = (.error (.rejected .userNotFound), c.shared)
  /-- An update of any copy of the user that comes to save now has saved nothing, and comes back with a
      failure. -/
  unsaved : ∀ i r v active draft y w, c.job? i = some (r, .update (some v) active draft) →
    v.id = row.id → (i, y) ∈ T → y.effect = .users (.save w) →
    y.after = y.before ∧ ∃ f, c.Finished i (r, .update (some v) active draft)
      (.error (Update.saveFailure f)) ∧ (y.Served → f = Store.emailViolation (.save w) ∨ f.isNotFound = true)
  /-- A verification that accepts a session of the user has not looked the user up since. -/
  unverified : ∀ i r authorization z u y call,
    c.Finished i (r, .verify authorization) (.ok (.verified z u)) → z.userId = row.id → (i, y) ∈ T →
    y.effect ≠ .users call
  /-- No session of the user is accepted later, whatever its expiry and whenever it was opened. -/
  unverifiedLater : ∀ r o authorization z u,
    ((Sessions.verify h r authorization).runOn o c.shared).1 = .ok (z, u) → z.userId ≠ row.id
  /-- The address is free at once. -/
  freed : ∀ email, row.email = some email → x.after.emailHolder? email = none
  /-- Whoever signs up from then on, with the same address or another one, gets another key. -/
  fresh : ∀ i y u, (i, y) ∈ T → SignUp.Inserts y u → row.id < u.id
  /-- A valid sign-up with the address gets through as long as it is free. -/
  again : ∀ r o d fields email, check d = .ok fields → fields.email = some email →
    c.shared.emailHolder? email = none →
    (∀ password, fields.password = some password → ∃ hash, h.create (o .salt) password = .ok hash) →
    ∃ u, ((create h r (some d)).runOn o c.shared).1 = .ok u ∧ u.email = some email ∧ row.id < u.id

/-! ### Signing up with a free address -/

section SignUp

variable {h : Hasher} {o : Surroundings} {s : Store} {fields : Fields} {email : String}

/-- **A sign-up by itself** takes a free address, and gets the next key. -/
theorem runOn_create_of_free (r : Request) {d : UserDraft} (hfields : check d = .ok fields)
    (hemail : fields.email = some email) (free : s.emailHolder? email = none)
    (hashes : ∀ password, fields.password = some password → ∃ hash,
      h.create (o .salt) password = .ok hash) :
    ∃ u, ((create h r (some d)).runOn o s).1 = .ok u ∧ u.email = some email ∧
      u.id = s.lastUser + 1 := by
  have hfree : Free s fields.email := by
    intro e he
    obtain rfl : email = e := Option.some.inj (hemail.symm.trans he)
    exact free
  obtain ⟨result, new⟩ := exists_newHash h (o .salt) fields.password
  cases result with
  | ok hash =>
    refine ⟨s.newUser (newcomer fields hash), ?_, hemail, rfl⟩
    rw [create_of_check hfields, runOn_enter_of_free r hfree new]
  | error e =>
    obtain ⟨password, hpassword, refused⟩ := new.exists_refused
    obtain ⟨hash, create⟩ := hashes password hpassword
    rw [refused] at create
    cases create

end SignUp

/-! ### What holds behind the mark -/

section Behind

variable {h : Hasher} {T T' : Trace Store} {b c : Crowd Store (Request × Job) (Except ServiceFailure Value)}
  {i : Nat} {r : Request} {row : User} {x y : Exchange Store}

/-- What a deletion does to the row. -/
theorem Deletes.marked (deletes : Deletes x row) (keyed : x.before.Keyed) :
    row.isLive = false ∧ row ∈ x.after.users := by
  obtain ⟨v, old, heffect, served, hold, rfl⟩ := deletes
  obtain ⟨effect, answer, before, after⟩ := x
  obtain rfl : effect = .users (.delete v) := heffect
  have hcall : before.deleteUser v = (answer, after) := served
  rw [Store.deleteUser, show before.liveUser? v.id = some old from hold] at hcall
  obtain ⟨-, rfl⟩ := Prod.mk.inj hcall
  refine ⟨rfl, ?_⟩
  have hmarked := Store.changed_mem (keyed.pairwise_isLiveUser v.id) before.markedUser
    (List.mem_of_find?_eq_some hold)
  rwa [if_pos (List.find?_some hold)] at hmarked

/-- The address of a user who has been deleted is free. -/
theorem Deletes.freed (deletes : Deletes x row) (keyed : x.before.Keyed)
    (apart : x.before.UniqueEmails) (answers : x.before.Answers x.effect x.answer x.after)
    {email : String} (hemail : row.email = some email) : x.after.emailHolder? email = none := by
  have hkeyed := answers.keyed keyed
  obtain ⟨dead, hrow⟩ := deletes.marked keyed
  obtain ⟨v, old, heffect, -, hold, hmark⟩ := deletes
  obtain ⟨hmem, -, hlive⟩ := (Store.liveUser?_eq_some keyed.nodup_users).1 hold
  rw [← Option.not_isSome_iff_eq_none, Store.emailHolder?_isSome]
  rintro ⟨u, hu, huLive, huEmail⟩
  -- whoever had the address behind the deletion would have had it before, together with the user
  have hne : u.id ≠ row.id := hkeyed.id_ne_of_dead hrow dead hu huLive
  have hbefore : u ∈ x.before.users := by
    rcases answers.cases with hsame | hwrites
    · rwa [hsame] at hu
    · rw [heffect] at hwrites
      generalize x.after = s' at hwrites hu
      cases hwrites with
      | insertUser call w hcall free => rcases hcall with h | ⟨h, -⟩ <;> cases h
      | markUser w _ _ =>
        rcases Store.mem_changeFirst hu with hu | ⟨w, -, -, rfl⟩
        · exact hu
        · cases huLive
  have hsame : u = old := by
    have holdEmail : old.email = some email := by
      rw [← hemail, hmark]
      rfl
    exact apart.eq_of_hasEmail hbefore hmem (Store.hasEmail_iff.2 ⟨huEmail, huLive⟩)
      (Store.hasEmail_iff.2 ⟨holdEmail, hlive⟩)
  exact hne (by rw [hsame, hmark]; rfl)

/-- A user that is inserted gets a key behind all others. -/
theorem id_lt_of_inserts {u : User} (keyed : y.before.Keyed) (hrow : row ∈ y.before.users)
    (answers : y.before.Answers y.effect y.answer y.after) (inserts : SignUp.Inserts y u) :
    row.id < u.id := by
  obtain ⟨v, before, after, rfl⟩ := inserts
  have hcall : before.createUser (.create v) v = (.ok u, after) := answers.callUsers_of_ok
  rw [(Store.create_user_ok hcall).1]
  exact Int.lt_add_one_of_le (keyed.handed_of_mem hrow).2

/-- **Getting the user** behind the deletion. -/
theorem get_of_dead (run : (service h).Run .nobody T c) {value : Except ServiceFailure Value}
    (hi : c.Finished i (r, .getUser row.id) value) (hy : (i, y) ∈ T) (keyed : y.before.Keyed)
    (hrow : row ∈ y.before.users) (dead : row.isLive = false) :
    (∀ v, value ≠ .ok v) ∧ (y.Served → value = .error (.rejected .userNotFound)) := by
  -- the exchange is the lookup, which finds nobody
  obtain ⟨answer, before, after, rfl, rfl⟩ := got_of_finished run hi hy
  have hnone : before.callUsers (.getById row.id) = (.ok none, before) := by
    rw [Store.callUsers, keyed.liveUser?_of_dead hrow dead]
    rfl
  have hserved : Exchange.Served ⟨.users (.getById row.id), answer, before, after⟩ → answer = .ok none :=
    fun served => (Prod.mk.inj (served.symm.trans hnone)).1
  rcases answer with f | found
  · refine ⟨(fun v hv => by cases hv), fun served => ?_⟩
    cases hserved served
  · have hanswers := run.answers_of_mem hy
    obtain rfl : found = none := Except.ok.inj (hserved hanswers.callUsers_of_ok)
    exact ⟨(fun v hv => by cases hv), fun _ => rfl⟩

/-- **Saving the user** behind the deletion. -/
theorem save_of_dead (run : (service h).Run .nobody T c) {v w : User} {active : Option Session}
    {draft : Option UserDraft} (hi : c.job? i = some (r, .update (some v) active draft))
    (hid : v.id = row.id) (hy : (i, y) ∈ T) (hsave : y.effect = .users (.save w))
    (keyed : y.before.Keyed) (hrow : row ∈ y.before.users) (dead : row.isLive = false) :
    y.after = y.before ∧ ∃ f, c.Finished i (r, .update (some v) active draft)
      (.error (Update.saveFailure f)) ∧
        (y.Served → f = Store.emailViolation (.save w) ∨ f.isNotFound = true) := by
  obtain ⟨u, d, fields, hu, -, -, hasks⟩ := Update.asks_of_mem run hi hy
  have answers := run.answers_of_mem hy
  obtain ⟨effect, answer, before, after⟩ := y
  obtain rfl : effect = .users (.save w) := hsave
  obtain rfl := Option.some.inj hu
  -- what is saved has the key of the copy
  have hkey : w.id = row.id := (Update.Saves.id_eq hasks).trans hid
  have hcall := Store.save_of_dead keyed hrow dead hkey
  rcases answer with f | saved
  · refine ⟨answers.eq_of_error, f, Update.finished_of_fails run hi hy ⟨w, before, after, rfl⟩, ?_⟩
    intro served
    rcases hcall with hcall | hcall
    · exact .inl (Except.error.inj (Prod.mk.inj (served.symm.trans hcall)).1)
    · have hf := Except.error.inj (Prod.mk.inj (served.symm.trans hcall)).1
      exact .inr (by rw [hf]; rfl)
  · rcases hcall with hcall | hcall
    · cases (Prod.mk.inj (answers.callUsers_of_ok.symm.trans hcall)).1
    · cases (Prod.mk.inj (answers.callUsers_of_ok.symm.trans hcall)).1

/-- **Verifying a session of the user** behind the deletion. -/
theorem not_verified_of_dead (run : (service h).Run .nobody T c) {authorization : String} {z : Session}
    {u : User} {call : UserCall} (hi : c.Finished i (r, .verify authorization) (.ok (.verified z u)))
    (howner : z.userId = row.id) (hy : (i, y) ∈ T) (keyed : y.before.Keyed)
    (hrow : row ∈ y.before.users) (dead : row.isLive = false) : y.effect ≠ .users call := by
  intro hcall
  have haccepted := Sessions.accepted_of_finished run hi
  have hown := Trace.mem_own.2 hy
  -- the only lookup of a user has found the owner, who would be live
  generalize T.own i = own at haccepted hown
  obtain ⟨id, now, b₁, a₁, b₂, a₂, b₃, a₃⟩ := haccepted
  simp only [List.mem_cons, List.not_mem_nil, or_false] at hown
  rcases hown with rfl | rfl | rfl
  · cases hcall
  · cases hcall
  · have answers := run.answers_of_mem hy
    have hfound := answers.callUsers_of_ok
    rw [howner, Store.callUsers, keyed.liveUser?_of_dead hrow dead] at hfound
    cases (Prod.mk.inj hfound).1

end Behind

/-- **A deletion is final.** -/
theorem deletion_final {h : Hasher} {T₁ T₂ : Trace Store} {j : Nat} {x : Exchange Store} {row : User}
    {c : Crowd Store (Request × Job) (Except ServiceFailure Value)}
    (run : (service h).Run .nobody (T₁ ++ (j, x) :: T₂) c) (deletes : Deletes x row) :
    Gone h x row T₂ c := by
  -- the run up to the deletion, the deletion, and what follows
  obtain ⟨a, run₁, hrest⟩ := run.parts rfl
  obtain ⟨b, hdeletion, run₂⟩ := hrest.parts (List.append_cons [] (j, x) T₂)
  obtain ⟨hbefore, answers, hafter⟩ := hdeletion.shared_of_single
  have hkeyed : x.before.Keyed := hbefore ▸ keyed_of_run run₁
  obtain ⟨dead, hrow⟩ := deletes.marked hkeyed
  rw [← hafter] at hrow
  have hkeyedAfter : b.shared.Keyed := hafter ▸ answers.keyed hkeyed
  have hmem {i : Nat} {y : Exchange Store} (hy : (i, y) ∈ T₂) :
      (i, y) ∈ T₁ ++ (j, x) :: T₂ ∧ y.before.Keyed ∧ row ∈ y.before.users :=
    ⟨List.mem_append_right _ (List.mem_cons_of_mem _ hy), Store.dead_of_mem run₂ hkeyedAfter hrow dead hy⟩
  obtain ⟨hkeyedEnd, hrowEnd⟩ := Store.dead_of_run run₂ hkeyedAfter hrow dead
  have hnone := hkeyedEnd.liveUser?_of_dead hrowEnd dead
  exact {
    kept := ⟨dead, hrowEnd, fun u hu hid => List.inj_on_of_nodup_map hkeyedEnd.nodup_users hu hrowEnd hid⟩
    hidden := by
      intro i y v hy finds
      obtain ⟨hyT, keyed, hrowY⟩ := hmem hy
      obtain ⟨live, hlive, hisLive, rfl⟩ := Store.liveRow_of_finds finds (run.answers_of_mem hyT)
      show live.id ≠ row.id
      exact keyed.id_ne_of_dead hrowY dead hlive hisLive
    unknown := by
      intro i r value y hi hy
      obtain ⟨hyT, keyed, hrowY⟩ := hmem hy
      exact get_of_dead run hi hyT keyed hrowY dead
    unknownLater := by
      intro o
      have key : row.id ≠ 0 := Int.ne_of_gt (hkeyedEnd.handed_of_mem hrowEnd).1
      unfold get
      simp only [if_neg key]
      show (Service.users getContext (.getById row.id) >>= _ : Service User).runOn o c.shared = _
      rw [Service.runOn_bind, Service.runOn_users, Store.callUsers, hnone]
      rfl
    unsaved := by
      intro i r v active draft y w hi hid hy hsave
      obtain ⟨hyT, keyed, hrowY⟩ := hmem hy
      exact save_of_dead run hi hid hyT hsave keyed hrowY dead
    unverified := by
      intro i r authorization z u y call hi howner hy
      obtain ⟨hyT, keyed, hrowY⟩ := hmem hy
      exact not_verified_of_dead run hi howner hyT keyed hrowY dead
    unverifiedLater := by
      intro r o authorization z u hok howner
      rw [Sessions.runOn_verify] at hok
      split at hok
      · cases hok
      · obtain ⟨-, -, -, v, hv, -⟩ := Sessions.verdict_eq_ok.1 hok
        rw [howner, hnone] at hv
        cases hv
    freed := by
      intro email hemail
      have hapart : x.before.UniqueEmails := hbefore ▸ Store.uniqueEmails_of_run run₁
      exact deletes.freed hkeyed hapart answers hemail
    fresh := by
      intro i y u hy inserts
      obtain ⟨hyT, keyed, hrowY⟩ := hmem hy
      exact id_lt_of_inserts keyed hrowY (run.answers_of_mem hyT) inserts
    again := by
      intro r o d fields email hfields hemail free hashes
      obtain ⟨u, hu, huEmail, huId⟩ := runOn_create_of_free r hfields hemail free hashes
      refine ⟨u, hu, huEmail, ?_⟩
      rw [huId]
      exact Int.lt_add_one_of_le (hkeyedEnd.handed_of_mem hrowEnd).2 }

/-! ### A sign-in that comes too late -/

/-- The sign-in first looks the user up. -/
theorem program_addressSignIn (r : Request) :
    ∃ next, (service plainHasher).program (r, .signIn (some addressSignIn))
      = .ask (.users (.getByEmail "ann@example.com")) next := by
  have hkey : Sessions.addressKey addressSignIn = some "ann@example.com" := by decide +kernel
  have hpurpose : Sessions.issuable "SESSION_CREATE" = .ok .sessionCreate := by decide +kernel
  have hfind : Sessions.findUser addressSignIn
      = Service.users Sessions.createContext (.getByEmail "ann@example.com") := by
    rw [Sessions.findUser, hkey]
  show ∃ next, (Sessions.create plainHasher r (some addressSignIn) >>= _ : Service Value).run = .ask _ next
  unfold Sessions.create
  show ∃ next, ((Service.checked (Sessions.issuable "SESSION_CREATE") >>= _ : Service Session) >>= _ :
    Service Value).run = .ask _ next
  rw [hpurpose]
  show ∃ next, ((Sessions.findUser addressSignIn >>= _ : Service Session) >>= _ : Service Value).run
    = .ask _ next
  rw [hfind]
  exact ⟨_, rfl⟩

/-- A user signs up, is found by a sign-in, and is deleted; then the sign-in goes on. -/
theorem deletion_final_lateSignIn :
    ∃ T₁ x T₂ row c, (service plainHasher).Run .nobody (T₁ ++ (2, x) :: T₂) c ∧ Deletes x row ∧
      Gone plainHasher x row T₂ c := by
  obtain ⟨T₀, value, signedUp⟩ := run_addressSignUp
  -- the lookup of the sign-in
  obtain ⟨next, hnext⟩ := program_addressSignIn (.new "r" .epoch)
  have relaunched := (signedUp.launch (.new "r" .epoch, .signIn (some addressSignIn))).launch
    (.new "r" .epoch, .deleteUser (some { User.new with id := 1 }))
  rw [hnext] at relaunched
  have looked := relaunched.step (i := 1) ⟨.users (.getByEmail "ann@example.com"),
    (addressStore.callUsers (.getByEmail "ann@example.com")).1, addressStore, addressStore⟩
    rfl rfl (.inl rfl)
  -- the deletion: the clock, the running sessions, the user
  have read := looked.step (i := 2) ⟨.clock, Instant.epoch, addressStore, addressStore⟩ rfl rfl (.inl rfl)
  have listed := read.step (i := 2)
    ⟨.sessions (.listActive 1 .epoch), .ok [], addressStore, addressStore⟩ rfl rfl (.inl rfl)
  have deleted := listed.step (i := 2) ⟨.users (.delete { User.new with id := 1 }),
    (addressStore.callUsers (.delete { User.new with id := 1 })).1, addressStore,
    (addressStore.callUsers (.delete { User.new with id := 1 })).2⟩ rfl rfl (.inl rfl)
  obtain ⟨T₂, signedIn, -⟩ := deleted.undisturbed (i := 1) (.calm .epoch) rfl
  rw [List.append_assoc _ [_] T₂] at signedIn
  have hdeletes : Deletes ⟨.users (.delete { User.new with id := 1 }),
    (addressStore.callUsers (.delete { User.new with id := 1 })).1, addressStore,
    (addressStore.callUsers (.delete { User.new with id := 1 })).2⟩ _ := ⟨_, _, rfl, rfl, rfl, rfl⟩
  exact ⟨_, _, _, _, _, signedIn, hdeletes, deletion_final signedIn hdeletes⟩

end Turnstile.Accounts
