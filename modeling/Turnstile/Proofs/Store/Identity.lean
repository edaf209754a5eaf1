import Turnstile.Proofs.Accounts.StaleCopy

namespace Turnstile

open Credential (Hasher)

/-!
# The identity of rows

A row is what it is by its place in its table, which it never leaves. This is so whatever operations do, and
whatever records their callers pass to them, old as these may be.

* `User.Becomes` and `Session.Becomes` say what the row at a place may become. The key and the time of
  creation stay, a mark is never taken off or changed, and of a session nothing changes but the mark.
* `Store.Carried` says so of a whole table, and `Store.Carries` of both.
* `Writes.user_row` and `Writes.session_row` follow a row through one change, and `carries_of_run` the tables
  through a run.
* `Exchange.usersInserted` and `Exchange.sessionsInserted` count the rows that an exchange adds.
* `identity_kept` puts it together with whose doing a change is.
-/

/-! ### What a row may become -/

/-- What a user's row may become: it keeps its key and its time of creation, and once it is marked as
    deleted it stays as it is. -/
structure User.Becomes (old new : User) : Prop where
  id : new.id = old.id
  createdAt : new.createdAt = old.createdAt
  final : old.isLive = false → new = old

/-- What a session's row may become: nothing but the mark is different, and only if there was none. -/
structure Session.Becomes (old new : Session) : Prop where
  same : new = { old with deletedAt := new.deletedAt }
  final : old.isLive = false → new = old

theorem User.Becomes.refl (u : User) : u.Becomes u := ⟨rfl, rfl, fun _ => rfl⟩

theorem Session.Becomes.refl (x : Session) : x.Becomes x := ⟨rfl, fun _ => rfl⟩

theorem User.Becomes.trans {u v w : User} (h : u.Becomes v) (k : v.Becomes w) : u.Becomes w := by
  refine ⟨k.id.trans h.id, k.createdAt.trans h.createdAt, fun dead => ?_⟩
  obtain rfl := h.final dead
  exact k.final dead

theorem Session.Becomes.trans {x y z : Session} (h : x.Becomes y) (k : y.Becomes z) : x.Becomes z := by
  refine ⟨?_, fun dead => ?_⟩
  · rw [k.same, h.same]
  · obtain rfl := h.final dead
    exact k.final dead

/-! ### What an exchange asks for -/

/-- The question asks for a change of the user's row with a key. -/
def Effect.Touches (id : Id) : Effect → Prop
  | .users (.save v) | .users (.delete v) => v.id = id
  | _ => False

/-- The job is to change or to delete the user with a key. -/
def Job.Touches (id : Id) : Job → Prop
  | .update (some u) _ _ | .deleteUser (some u) => u.id = id
  | _ => False

/-- How many users the exchange inserts. A record without a key is inserted by a save, too. -/
def Exchange.usersInserted : Exchange Store → Nat
  | ⟨.users (.create _), .ok _, _, _⟩ => 1
  | ⟨.users (.save u), .ok _, _, _⟩ => if u.id = 0 then 1 else 0
  | _ => 0

/-- How many sessions the exchange inserts. -/
def Exchange.sessionsInserted : Exchange Store → Nat
  | ⟨.sessions (.create _), .ok _, _, _⟩ => 1
  | _ => 0

/-- The exchange changes the mark of the row at a place. -/
def Exchange.Marks {α : Type} (rows : Store → List α) (mark : α → Option Instant) (n : Nat)
    (x : Exchange Store) : Prop :=
  ∃ old new, (rows x.before)[n]? = some old ∧ (rows x.after)[n]? = some new ∧ mark new ≠ mark old

/-- A user's operation asks only for the user whose record it was given. -/
theorem Job.touches_of_allows {job : Job} {past : List (Exchange Store)} {e : Effect} {id : Id}
    (allows : job.Allows past e) (touches : e.Touches id) : job.Touches id := by
  cases e with
  | users call =>
    cases call with
    | save v =>
      obtain ⟨u, active, d, rfl, hid, -⟩ := allows
      exact hid.symm.trans touches
    | delete v =>
      obtain rfl : job = .deleteUser (some v) := allows
      exact touches
    | _ => exact touches.elim
  | _ => exact touches.elim

namespace Store

/-! ### Tables -/

/-- Every row is still at its place, and has become what `R` allows. -/
def Carried {α : Type} (R : α → α → Prop) (old new : List α) : Prop :=
  ∀ (n : Nat) (a : α), old[n]? = some a → ∃ b, new[n]? = some b ∧ R a b

/-- Every row of either table is still at its place, and has become what it may. -/
structure Carries (s s' : Store) : Prop where
  users : Carried User.Becomes s.users s'.users
  sessions : Carried Session.Becomes s.sessions s'.sessions

variable {s s' s'' : Store} {e : Effect}

/-- Places of the same key are the same, then and now, where rows keep their keys and no two have one. -/
theorem Carried.same_place {α κ : Type} {R : α → α → Prop} {key : α → κ} {old new : List α}
    (carried : Carried R old new) (keeps : ∀ a b, R a b → key b = key a) (nodup : (new.map key).Nodup)
    {m n : Nat} {a b : α} (ha : old[m]? = some a) (hb : new[n]? = some b) (same : key a = key b) :
    m = n := by
  obtain ⟨a', ha', becomes⟩ := carried m a ha
  have hm : (new.map key)[m]? = some (key b) := by
    rw [List.getElem?_map, ha', Option.map_some, keeps a a' becomes, same]
  have hn : (new.map key)[n]? = some (key b) := by
    rw [List.getElem?_map, hb, Option.map_some]
  exact (List.getElem?_inj (List.getElem?_eq_some_iff.1 hm).1 nodup).1 (hm.trans hn.symm)

theorem Carries.refl (s : Store) : s.Carries s :=
  ⟨fun _ u hu => ⟨u, hu, .refl u⟩, fun _ x hx => ⟨x, hx, .refl x⟩⟩

theorem Carries.trans (h : s.Carries s') (k : s'.Carries s'') : s.Carries s'' := by
  refine ⟨fun n u hu => ?_, fun n x hx => ?_⟩
  · obtain ⟨v, hv, huv⟩ := h.users n u hu
    obtain ⟨w, hw, hvw⟩ := k.users n v hv
    exact ⟨w, hw, huv.trans hvw⟩
  · obtain ⟨y, hy, hxy⟩ := h.sessions n x hx
    obtain ⟨z, hz, hyz⟩ := k.sessions n y hy
    exact ⟨z, hz, hxy.trans hyz⟩

section ChangeFirst

variable {α : Type} {p : α → Bool} {f : α → α} {l : List α}

/-- The row at a place behind a change: the same one, or what it was changed into. -/
theorem getElem?_changeFirst {n : Nat} {a : α} (h : l[n]? = some a) :
    ∃ b, (changeFirst p f l)[n]? = some b ∧ (b = a ∨ p a = true ∧ b = f a) := by
  induction l generalizing n with
  | nil => cases h
  | cons c l ih =>
    by_cases hc : p c = true
    · rw [changeFirst, if_pos hc]
      cases n with
      | zero =>
        obtain rfl := Option.some.inj h
        exact ⟨_, rfl, .inr ⟨hc, rfl⟩⟩
      | succ n => exact ⟨a, h, .inl rfl⟩
    · rw [changeFirst, if_neg hc]
      cases n with
      | zero => exact ⟨a, h, .inl rfl⟩
      | succ n => exact ih h

theorem length_changeFirst : (changeFirst p f l).length = l.length := by
  induction l with
  | nil => rfl
  | cons c l ih =>
    rw [changeFirst]
    split
    · rfl
    · rw [List.length_cons, List.length_cons, ih]

end ChangeFirst

/-! ### One change -/

/-- **A user's row under a change**: it is still at its place; and if it is not the same, it is the one that
    was asked for. -/
theorem Writes.user_row (h : s.Writes e s') (keyed : s.Keyed) {n : Nat} {old : User}
    (hn : s.users[n]? = some old) :
    ∃ new, s'.users[n]? = some new ∧ old.Becomes new ∧ (new ≠ old → e.Touches old.id) := by
  have hmem : old ∈ s.users := List.mem_of_getElem? hn
  have same (hn' : s'.users[n]? = some old) :
      ∃ new, s'.users[n]? = some new ∧ old.Becomes new ∧ (new ≠ old → e.Touches old.id) :=
    ⟨old, hn', .refl old, fun hne => absurd rfl hne⟩
  cases h with
  | insertUser call v hcall free =>
    exact same ((List.getElem?_append_left (List.getElem?_eq_some_iff.1 hn).1).trans hn)
  | replaceUser v row key free live =>
    obtain ⟨new, hnew, rfl | ⟨hlive, rfl⟩⟩ := getElem?_changeFirst
      (p := isLiveUser v.id) (f := fun _ => keptUser (changedUser row v)) hn
    · exact same hnew
    · -- the row that is replaced is the one whose time of creation was looked up
      obtain ⟨hid, isLive⟩ := isLiveUser_iff.1 hlive
      have hold := (liveUser?_eq_some keyed.nodup_users).2 ⟨hmem, hid, isLive⟩
      obtain rfl := Option.some.inj (live.symm.trans hold)
      refine ⟨_, hnew, ⟨hid.symm, rfl, fun dead => ?_⟩, fun _ => hid.symm⟩
      rw [isLive] at dead
      cases dead
  | markUser v row live =>
    obtain ⟨new, hnew, rfl | ⟨hlive, rfl⟩⟩ := getElem?_changeFirst
      (p := isLiveUser v.id) (f := s.markedUser) hn
    · exact same hnew
    · obtain ⟨hid, isLive⟩ := isLiveUser_iff.1 hlive
      refine ⟨_, hnew, ⟨rfl, rfl, fun dead => ?_⟩, fun _ => hid.symm⟩
      rw [isLive] at dead
      cases dead
  | _ => exact same hn

/-- **A session's row under a change**: it is still at its place, and at most the mark is new. -/
theorem Writes.session_row (h : s.Writes e s') {n : Nat} {old : Session}
    (hn : s.sessions[n]? = some old) : ∃ new, s'.sessions[n]? = some new ∧ old.Becomes new := by
  cases h with
  | insertSession x fresh =>
    exact ⟨old, (List.getElem?_append_left (List.getElem?_eq_some_iff.1 hn).1).trans hn, .refl old⟩
  | markSession x row live =>
    obtain ⟨new, hnew, rfl | ⟨hlive, rfl⟩⟩ := getElem?_changeFirst
      (p := isLiveSession x.id) (f := s.markedSession) hn
    · exact ⟨_, hnew, .refl _⟩
    · refine ⟨_, hnew, ⟨rfl, fun dead => ?_⟩⟩
      rw [(isLiveSession_iff.1 hlive).2] at dead
      cases dead
  | _ => exact ⟨old, hn, .refl old⟩

theorem Writes.carries (h : s.Writes e s') (keyed : s.Keyed) : s.Carries s' := by
  refine ⟨fun n u hu => ?_, fun n x hx => h.session_row hx⟩
  obtain ⟨v, hv, becomes, -⟩ := h.user_row keyed hu
  exact ⟨v, hv, becomes⟩

/-! ### One exchange -/

section Exchange

variable {x : Exchange Store}

theorem carries_of_answers (answers : x.before.Answers x.effect x.answer x.after)
    (keyed : x.before.Keyed) : x.before.Carries x.after := by
  rcases answers.cases with hsame | hwrites
  · exact hsame ▸ .refl x.before
  · exact hwrites.carries keyed

/-- Whoever changes the row of a user asks for it by its key. -/
theorem touches_of_changed (answers : x.before.Answers x.effect x.answer x.after) (keyed : x.before.Keyed)
    {n : Nat} {old new : User} (hold : x.before.users[n]? = some old)
    (hnew : x.after.users[n]? = some new) (changed : new ≠ old) : x.effect.Touches old.id := by
  rcases answers.cases with hsame | hwrites
  · rw [hsame, hold] at hnew
    exact absurd (Option.some.inj hnew).symm changed
  · obtain ⟨row, hrow, -, touches⟩ := hwrites.user_row keyed hold
    obtain rfl := Option.some.inj (hrow.symm.trans hnew)
    exact touches changed

/-- Inserting a user adds one row. -/
theorem length_createUser {call : UserCall} {u v : User} (h : s.createUser call u = (.ok v, s')) :
    s'.users.length = s.users.length + 1 := by
  rw [(create_user_ok h).2]
  exact List.length_append

theorem length_callUsers {call : UserCall} {result : call.Result} (h : s.callUsers call = (.ok result, s')) :
    s'.users.length = s.users.length + Exchange.usersInserted ⟨.users call, .ok result, s, s'⟩ := by
  cases call with
  | create u => exact length_createUser h
  | save u =>
    show _ = s.users.length + if u.id = 0 then 1 else 0
    by_cases key : u.id = 0
    · simp only [callUsers, if_pos key] at h
      rw [if_pos key]
      exact length_createUser h
    · obtain ⟨row, -, -, husers⟩ := replace_user_ok h key
      rw [if_neg key, husers]
      exact length_changeFirst
  | delete u =>
    rcases delete_user_ok h with ⟨-, -, rfl⟩ | ⟨row, -, -, husers⟩
    · rfl
    · rw [husers]
      exact length_changeFirst
  | getById id =>
    cases h
    rfl
  | getByEmail email =>
    cases h
    rfl

theorem length_callSessions {call : SessionCall} {result : call.Result}
    (h : s.callSessions call = (.ok result, s')) :
    s'.sessions.length
      = s.sessions.length + Exchange.sessionsInserted ⟨.sessions call, .ok result, s, s'⟩ := by
  cases call with
  | create x =>
    rw [(create_session_ok h).2]
    exact List.length_append
  | delete x =>
    simp only [callSessions, deleteSession] at h
    split at h
    · cases h
      rfl
    · cases h
      exact length_changeFirst
  | getById id =>
    cases h
    rfl
  | listActive userId now =>
    cases h
    rfl

/-- **A call adds the rows that it inserts**, and no others. -/
theorem length_of_answers (answers : x.before.Answers x.effect x.answer x.after) :
    x.after.users.length = x.before.users.length + x.usersInserted ∧
      x.after.sessions.length = x.before.sessions.length + x.sessionsInserted := by
  obtain ⟨e, answer, s, s'⟩ := x
  have same (hsame : s' = s) (husers : Exchange.usersInserted ⟨e, answer, s, s'⟩ = 0)
      (hsessions : Exchange.sessionsInserted ⟨e, answer, s, s'⟩ = 0) :
      s'.users.length = s.users.length + Exchange.usersInserted ⟨e, answer, s, s'⟩ ∧
        s'.sessions.length = s.sessions.length + Exchange.sessionsInserted ⟨e, answer, s, s'⟩ := by
    rw [husers, hsessions, hsame]
    exact ⟨rfl, rfl⟩
  cases e with
  | users call =>
    rcases answer with f | result
    · exact same answers.eq_of_error (by cases call <;> rfl) rfl
    · have hcall := answers.callUsers_of_ok
      have hsessions := s.callUsers_sessions call
      rw [hcall] at hsessions
      exact ⟨length_callUsers hcall, congrArg List.length hsessions⟩
  | sessions call =>
    rcases answer with f | result
    · exact same answers.eq_of_sessionsError rfl (by cases call <;> rfl)
    · have hcall := answers.callSessions_of_ok
      have husers := s.callSessions_users call
      rw [hcall] at husers
      exact ⟨congrArg List.length husers, length_callSessions hcall⟩
  | _ => exact same (answers.elim id fun h => h.elim) rfl rfl

end Exchange

/-! ### A run -/

section Run

variable {h : Hasher} {a c : Crowd Store (Request × Job) (Except ServiceFailure Value)} {T : Trace Store}

/-- **The tables through a run**: every row is still at its place. -/
theorem carries_of_run (run : (service h).Run a T c) (keyed : a.shared.Keyed) :
    a.shared.Carries c.shared := by
  have through := run.invariant (P := fun s => s.Keyed ∧ a.shared.Carries s) ⟨keyed, .refl _⟩ ?_
  · exact through.2
  · rintro x answers ⟨keyed, carries⟩
    exact ⟨Store.Answers.keyed answers keyed, carries.trans (carries_of_answers answers keyed)⟩

variable {α : Type} {R : α → α → Prop} {rows : Store → List α} {mark : α → Option Instant}

/-- **A row is marked at most once** in a run, in a table whose rows stay as they are once they are
    marked. -/
theorem marked_once (run : (service h).Run a T c)
    (carried : ∀ i x, (i, x) ∈ T → Carried R (rows x.before) (rows x.after))
    (final : ∀ old new, R old new → (mark old).isSome = true → new = old) (n : Nat) :
    T.Pairwise fun p q => ¬ (p.2.Marks rows mark n ∧ q.2.Marks rows mark n) := by
  -- from the first mark on, there is a marked row at the place
  refine run.once (Q := fun s => ∃ row, (rows s)[n]? = some row ∧ (mark row).isSome = true) ?_ ?_ ?_
  · rintro i x hx ⟨old, new, hold, hnew, changed⟩
    obtain ⟨_, hnew', becomes⟩ := carried i x hx n old hold
    obtain rfl := Option.some.inj (hnew'.symm.trans hnew)
    refine ⟨_, hnew, ?_⟩
    by_contra absent
    rw [Bool.not_eq_true, Option.isSome_eq_false_iff, Option.isNone_iff_eq_none] at absent
    by_cases marked : (mark old).isSome = true
    · exact changed (by rw [final old _ becomes marked])
    · rw [Bool.not_eq_true, Option.isSome_eq_false_iff, Option.isNone_iff_eq_none] at marked
      exact changed (absent.trans marked.symm)
  · rintro i x hx ⟨row, hrow, marked⟩
    obtain ⟨new, hnew, becomes⟩ := carried i x hx n row hrow
    exact ⟨new, hnew, (final row new becomes marked).symm ▸ marked⟩
  · rintro i x hx ⟨row, hrow, marked⟩ ⟨old, new, hold, hnew, changed⟩
    obtain rfl := Option.some.inj (hrow.symm.trans hold)
    obtain ⟨_, hnew', becomes⟩ := carried i x hx n row hrow
    obtain rfl := Option.some.inj (hnew'.symm.trans hnew)
    exact changed (by rw [final row _ becomes marked])

end Run

end Store

/-! ### The identity of rows -/

/-- **Rows have an identity**, from one point of a run to a later one. -/
structure IdentityKept (T : Trace Store)
    (b c : Crowd Store (Request × Job) (Except ServiceFailure Value)) : Prop where
  /-- No row is removed or moved, and each has become only what it may. -/
  carried : b.shared.Carries c.shared
  /-- Each exchange adds the rows that it inserts, which is one at most. -/
  inserted : ∀ (i : Nat) (x : Exchange Store), (i, x) ∈ T →
    x.after.users.length = x.before.users.length + x.usersInserted ∧
      x.after.sessions.length = x.before.sessions.length + x.sessionsInserted
  /-- The row of a user is changed only by an update or a deletion of that user. -/
  touched : ∀ (i : Nat) (x : Exchange Store) (n : Nat) (old new : User), (i, x) ∈ T →
    x.before.users[n]? = some old → x.after.users[n]? = some new → new ≠ old →
    x.effect.Touches old.id ∧ ∃ r job, c.job? i = some (r, job) ∧ job.Touches old.id
  /-- The mark of a user's row is set once at most. -/
  userMarks : ∀ n, T.Pairwise fun p q =>
    ¬ (p.2.Marks Store.users User.deletedAt n ∧ q.2.Marks Store.users User.deletedAt n)
  /-- So is that of a session's row. -/
  sessionMarks : ∀ n, T.Pairwise fun p q =>
    ¬ (p.2.Marks Store.sessions Session.deletedAt n ∧ q.2.Marks Store.sessions Session.deletedAt n)
  /-- Users with the same key, then or now, deleted or not, are the same. -/
  usersApart : ∀ (m n : Nat) (u v : User), b.shared.users[m]? = some u → c.shared.users[n]? = some v →
    u.id = v.id → m = n
  /-- So are sessions. -/
  sessionsApart : ∀ (m n : Nat) (x y : Session), b.shared.sessions[m]? = some x →
    c.shared.sessions[n]? = some y → x.id = y.id → m = n

/-- **Every row keeps its identity**, from any point of any run to any later one. -/
theorem identity_kept {h : Hasher} {T₁ T₂ : Trace Store}
    {b c : Crowd Store (Request × Job) (Except ServiceFailure Value)} (run₁ : (service h).Run .nobody T₁ b)
    (run₂ : (service h).Run b T₂ c) : IdentityKept T₂ b c := by
  have run := run₁.trans run₂
  have keyed : c.shared.Keyed := keyed_of_run run
  have carried := Store.carries_of_run run₂ (keyed_of_run run₁)
  have around (i : Nat) (x : Exchange Store) (hx : (i, x) ∈ T₂) :
      x.before.Answers x.effect x.answer x.after ∧ x.before.Keyed :=
    ⟨run₂.answers_of_mem hx, keyed_of_mem run (List.mem_append_right _ hx)⟩
  have step (i : Nat) (x : Exchange Store) (hx : (i, x) ∈ T₂) : x.before.Carries x.after :=
    Store.carries_of_answers (around i x hx).1 (around i x hx).2
  exact {
    carried
    inserted := fun i x hx => Store.length_of_answers (around i x hx).1
    touched := by
      intro i x n old new hx hold hnew changed
      have touches := Store.touches_of_changed (around i x hx).1 (around i x hx).2 hold hnew changed
      -- whoever asks for a change has a job, and the job says whose row it is about
      obtain ⟨_, _, _, ⟨r, job⟩, _, _, _, _, hjob⟩ := run.job_of_mem (List.mem_append_right _ hx)
      obtain ⟨_, _, -, allows⟩ := allows_of_mem run hjob (List.mem_append_right _ hx)
      exact ⟨touches, r, job, hjob, Job.touches_of_allows allows touches⟩
    userMarks := by
      refine Store.marked_once run₂ (fun i x hx => (step i x hx).users) fun old new becomes marked => ?_
      exact becomes.final (Option.isNone_eq_false_iff.2 marked)
    sessionMarks := by
      refine Store.marked_once run₂ (fun i x hx => (step i x hx).sessions) fun old new becomes marked => ?_
      exact becomes.final (Option.isNone_eq_false_iff.2 marked)
    usersApart := fun _ _ _ _ hu hv same =>
      carried.users.same_place (fun _ _ becomes => becomes.id) keyed.nodup_users hu hv same
    sessionsApart := fun _ _ _ _ hx hy same =>
      carried.sessions.same_place (fun _ _ becomes => by rw [becomes.same]) keyed.nodup_sessions hx hy same }

/-- The deletion of the user behind the sign-up with an address. -/
def deletingAnn : Request × Job := (.new "r" .epoch, .deleteUser (some Accounts.ann))

/-- The user takes a name and is deleted. What comes later with an old copy changes nothing any more. -/
theorem users_deletingAnn :
    ((Accounts.securing.rest plainHasher Accounts.ann).runOn (.calm .epoch)
      (((service plainHasher).program deletingAnn).runOn (.calm .epoch)
        ((Accounts.naming.rest plainHasher Accounts.ann).runOn (.calm .epoch) addressStore).2).2).2.users
      = [{ Accounts.ann with surname := some "SMITH", deletedAt := some ⟨1704067202, 0⟩ }] := by
  decide +kernel

theorem identity_kept_deletingAnn : ∃ T₁ b T₂ c, (service plainHasher).Run .nobody T₁ b ∧
    (service plainHasher).Run b T₂ c ∧ b.shared.users = [Accounts.ann] ∧
    c.shared.users = [{ Accounts.ann with surname := some "SMITH", deletedAt := some ⟨1704067202, 0⟩ }] ∧
    IdentityKept T₂ b c := by
  obtain ⟨T₁, value, signedUp⟩ := run_addressSignUp
  have copied : (service plainHasher).Run
      ⟨addressStore, [⟨(.new "r" .epoch, .signUp (some Accounts.addressDraft)), .done value⟩]⟩ [] _ := .start
  have launched := ((copied.launch (Accounts.naming.job Accounts.ann)).launch deletingAnn).launch
    (Accounts.securing.job Accounts.ann)
  rw [Accounts.program_of_check Accounts.check_naming,
    Accounts.program_of_check Accounts.check_securing] at launched
  have husers := users_deletingAnn
  -- what the three come to is named before they run
  generalize Accounts.naming.rest plainHasher Accounts.ann = p₁ at launched husers
  generalize (service plainHasher).program deletingAnn = p₂ at launched husers
  generalize Accounts.securing.rest plainHasher Accounts.ann = p₃ at launched husers
  obtain ⟨T₂, named, -⟩ := launched.undisturbed (i := 1) (.calm .epoch) rfl
  obtain ⟨T₃, deleted, -⟩ := named.undisturbed (i := 2) (.calm .epoch) rfl
  obtain ⟨T₄, late, -⟩ := deleted.undisturbed (i := 3) (.calm .epoch) rfl
  have before : addressStore.users = [Accounts.ann] := by decide +kernel
  exact ⟨T₁, _, _, _, signedUp, late, before, husers, identity_kept signedUp late⟩

end Turnstile
