import Mathlib.Data.List.Nodup
import Turnstile.Program
import Turnstile.Store

namespace Turnstile.Store

/-!
# Rows of the store

What a call can do to the tables, said once.

* `changeFirst_eq_map`: where at most one row meets the condition, changing the first one that does is a
  change of each row by itself.
* `Writes` lists the changes of the store that there are, each with the call that makes it, and
  `callUsers_cases` and `callSessions_cases` say that an answered call makes one of them or none.
* `Keyed` is the invariant of the keys: the rows of a table have the keys 1, 2, … in this order.
-/

/-! ### Live rows -/

theorem isLiveUser_iff {id : Id} {u : User} : isLiveUser id u = true ↔ u.id = id ∧ u.isLive = true := by
  rw [isLiveUser, Bool.and_eq_true, beq_iff_eq]

theorem isLiveSession_iff {id : Id} {x : Session} :
    isLiveSession id x = true ↔ x.id = id ∧ x.isLive = true := by
  rw [isLiveSession, Bool.and_eq_true, beq_iff_eq]

/-! ### Changing the first row -/

section ChangeFirst

variable {α κ : Type} {p : α → Bool} {f : α → α} {l : List α}

/-- Where at most one row meets the condition, each row is changed by itself. -/
theorem changeFirst_eq_map (h : l.Pairwise fun a b => p a = true → p b = false) :
    changeFirst p f l = l.map fun a => if p a then f a else a := by
  induction l with
  | nil => rfl
  | cons a l ih =>
    obtain ⟨hrest, hl⟩ := List.pairwise_cons.1 h
    by_cases ha : p a = true
    · -- the first row meets the condition, and no other one does
      have hsame : (l.map fun b => if p b then f b else b) = l := by
        conv => rhs; rw [← List.map_id l]
        refine List.map_congr_left fun b hb => ?_
        rw [hrest b hb ha]
        rfl
      rw [changeFirst, if_pos ha, List.map_cons, if_pos ha, hsame]
    · rw [changeFirst, if_neg ha, List.map_cons, if_neg ha, ih hl]

/-- A row behind a change was there before, or is what has become of one. -/
theorem mem_changeFirst {b : α} (h : b ∈ changeFirst p f l) :
    b ∈ l ∨ ∃ a ∈ l, p a = true ∧ b = f a := by
  induction l with
  | nil => cases h
  | cons a l ih =>
    by_cases ha : p a = true
    · rw [changeFirst, if_pos ha] at h
      rcases List.mem_cons.1 h with rfl | h
      · exact .inr ⟨a, List.mem_cons_self, ha, rfl⟩
      · exact .inl (List.mem_cons_of_mem _ h)
    · rw [changeFirst, if_neg ha] at h
      rcases List.mem_cons.1 h with rfl | h
      · exact .inl List.mem_cons_self
      · rcases ih h with h | ⟨c, hc, hpc, rfl⟩
        · exact .inl (List.mem_cons_of_mem _ h)
        · exact .inr ⟨c, List.mem_cons_of_mem _ hc, hpc, rfl⟩

/-- A change that leaves a column alone leaves that column of the table alone. -/
theorem map_changeFirst (key : α → κ) (h : ∀ a, p a = true → key (f a) = key a) :
    (changeFirst p f l).map key = l.map key := by
  induction l with
  | nil => rfl
  | cons a l ih =>
    by_cases ha : p a = true
    · rw [changeFirst, if_pos ha, List.map_cons, List.map_cons, h a ha]
    · rw [changeFirst, if_neg ha, List.map_cons, List.map_cons, ih]

/-- Of rows with different keys, at most one is the live row with a key. -/
theorem pairwise_live {key : α → Id} {live : α → Bool} (unique : (l.map key).Nodup) (id : Id) :
    l.Pairwise fun a b => (key a == id && live a) = true → (key b == id && live b) = false := by
  refine (List.pairwise_map.1 unique).imp ?_
  intro a b hne ha
  rw [Bool.and_eq_true, beq_iff_eq] at ha
  rw [beq_eq_false_iff_ne.2 (ha.1 ▸ Ne.symm hne), Bool.false_and]

/-- Behind a change there is what each row has become. -/
theorem changed_mem (h : l.Pairwise fun a b => p a = true → p b = false) (f : α → α) {a : α}
    (ha : a ∈ l) : (if p a then f a else a) ∈ changeFirst p f l := by
  rw [changeFirst_eq_map h]
  exact List.mem_map_of_mem ha

/-- If what is changed no longer meets the condition, no row does any more. -/
theorem find?_changeFirst_eq_none (h : l.Pairwise fun a b => p a = true → p b = false)
    (hf : ∀ a, p (f a) = false) : (changeFirst p f l).find? p = none := by
  rw [List.find?_eq_none, changeFirst_eq_map h]
  intro b hb
  obtain ⟨a, -, rfl⟩ := List.mem_map.1 hb
  by_cases ha : p a = true
  · rw [if_pos ha, hf a]
    exact Bool.false_ne_true
  · rwa [if_neg ha]

end ChangeFirst

/-! ### What a call can change -/

/-- The row of a new user. -/
def newUser (s : Store) (u : User) : User :=
  { u with id := s.lastUser + 1, createdAt := s.stamp }.refreshPasswordSet

/-- The row of a changed user. -/
def changedUser (row u : User) : User := { u with createdAt := row.createdAt }.refreshPasswordSet

/-- The row of a new session. -/
def newSession (s : Store) (x : Session) : Session :=
  { x with id := s.lastSession + 1, createdAt := s.stamp }

/-- The row of a user marked as deleted. -/
def markedUser (s : Store) (u : User) : User := { u with deletedAt := some s.stamp }

/-- The row of a session marked as deleted. -/
def markedSession (s : Store) (x : Session) : Session := { x with deletedAt := some s.stamp }

/-- The changes of the store, each with the question that makes it and the conditions under which it
    does. -/
inductive Writes (s : Store) : Effect → Store → Prop where
  | insertUser (call : UserCall) (u : User) (hcall : call = .create u ∨ call = .save u ∧ u.id = 0)
      (free : s.emailTaken u.email 0 = false) :
      Writes s (.users call) { s.tick with
        users := s.users ++ [keptUser (s.newUser u)], lastUser := s.lastUser + 1 }
  | replaceUser (u row : User) (key : u.id ≠ 0) (free : s.emailTaken u.email u.id = false)
      (live : s.liveUser? u.id = some row) :
      Writes s (.users (.save u)) { s with
        users := changeFirst (isLiveUser u.id) (fun _ => keptUser (changedUser row u)) s.users }
  | markUser (u row : User) (live : s.liveUser? u.id = some row) :
      Writes s (.users (.delete u)) { s.tick with
        users := changeFirst (isLiveUser u.id) s.markedUser s.users }
  | insertSession (x : Session) (fresh : s.sessions.any (·.tokenHash == x.tokenHash) = false) :
      Writes s (.sessions (.create x)) { s.tick with
        sessions := s.sessions ++ [keptSession (s.newSession x)], lastSession := s.lastSession + 1 }
  | markSession (x row : Session) (live : s.liveSession? x.id = some row) :
      Writes s (.sessions (.delete x)) { s.tick with
        sessions := changeFirst (isLiveSession x.id) s.markedSession s.sessions }

variable {s s' : Store}

/-- Inserting a user: refused if the address is in use, and done otherwise. -/
theorem createUser_eq (call : UserCall) (u : User) :
    s.createUser call u = if s.emailTaken u.email 0 then (.error (emailViolation call), s)
      else (.ok (s.newUser u), { s.tick with
        users := s.users ++ [keptUser (s.newUser u)], lastUser := s.lastUser + 1 }) := rfl

/-- An answered call on the users changes nothing, or it succeeds and makes one of the changes. -/
theorem callUsers_cases (s : Store) (call : UserCall) :
    (s.callUsers call).2 = s ∨
      (∃ result, (s.callUsers call).1 = .ok result) ∧ s.Writes (.users call) (s.callUsers call).2 := by
  have hcreate (call : UserCall) (u : User) (hcall : call = .create u ∨ call = .save u ∧ u.id = 0) :
      (s.createUser call u).2 = s ∨ (∃ result, (s.createUser call u).1 = .ok result) ∧
        s.Writes (.users call) (s.createUser call u).2 := by
    rw [createUser_eq]
    by_cases taken : s.emailTaken u.email 0 = true
    · rw [if_pos taken]
      exact .inl rfl
    · rw [if_neg taken]
      exact .inr ⟨⟨_, rfl⟩, .insertUser call u hcall (Bool.not_eq_true _ ▸ taken)⟩
  cases call with
  | create u => exact hcreate (.create u) u (.inl rfl)
  | save u =>
    by_cases key : u.id = 0
    · -- a record without a key is inserted
      simp only [callUsers, if_pos key]
      exact hcreate (.save u) u (.inr ⟨rfl, key⟩)
    · simp only [callUsers, if_neg key, saveUser]
      by_cases taken : s.emailTaken u.email u.id = true
      · rw [if_pos taken]
        exact .inl rfl
      · rw [if_neg taken]
        cases live : s.liveUser? u.id with
        | none => exact .inl rfl
        | some row =>
          exact .inr ⟨⟨_, rfl⟩, .replaceUser u row key (Bool.not_eq_true _ ▸ taken) live⟩
  | getById id => exact .inl rfl
  | getByEmail email => exact .inl rfl
  | delete u =>
    simp only [callUsers, deleteUser]
    cases live : s.liveUser? u.id with
    | none => exact .inl rfl
    | some row => exact .inr ⟨⟨_, rfl⟩, .markUser u row live⟩

/-- An answered call on the sessions changes nothing, or it succeeds and makes one of the changes. -/
theorem callSessions_cases (s : Store) (call : SessionCall) :
    (s.callSessions call).2 = s ∨ (∃ result, (s.callSessions call).1 = .ok result) ∧
      s.Writes (.sessions call) (s.callSessions call).2 := by
  cases call with
  | create x =>
    simp only [callSessions, createSession]
    by_cases taken : s.sessions.any (·.tokenHash == x.tokenHash) = true
    · rw [if_pos taken]
      exact .inl rfl
    · rw [if_neg taken]
      exact .inr ⟨⟨_, rfl⟩, .insertSession x (Bool.not_eq_true _ ▸ taken)⟩
  | getById id => exact .inl rfl
  | listActive userId now => exact .inl rfl
  | delete x =>
    simp only [callSessions, deleteSession]
    cases live : s.liveSession? x.id with
    | none => exact .inl rfl
    | some row => exact .inr ⟨⟨_, rfl⟩, .markSession x row live⟩

/-- Calls on the users leave the sessions alone. -/
theorem callUsers_sessions (s : Store) (call : UserCall) :
    (s.callUsers call).2.sessions = s.sessions := by
  rcases s.callUsers_cases call with hsame | ⟨-, hwrites⟩
  · rw [hsame]
  · generalize (s.callUsers call).2 = s' at hwrites
    cases hwrites <;> rfl

/-- Calls on the sessions leave the users alone. -/
theorem callSessions_users (s : Store) (call : SessionCall) : (s.callSessions call).2.users = s.users := by
  rcases s.callSessions_cases call with hsame | ⟨-, hwrites⟩
  · rw [hsame]
  · generalize (s.callSessions call).2 = s' at hwrites
    cases hwrites <;> rfl

/-! ### Keys -/

/-- The first so many keys. -/
def firstKeys (n : Nat) : List Int := (List.range n).map fun k : Nat => (k : Int) + 1

theorem firstKeys_succ (n : Nat) : firstKeys (n + 1) = firstKeys n ++ [(n : Int) + 1] := by
  rw [firstKeys, List.range_succ, List.map_append, firstKeys]
  rfl

theorem mem_firstKeys {n : Nat} {id : Int} : id ∈ firstKeys n ↔ 0 < id ∧ id ≤ n := by
  simp only [firstKeys, List.mem_map, List.mem_range]
  constructor
  · rintro ⟨k, hk, rfl⟩
    omega
  · rintro ⟨hpos, hle⟩
    exact ⟨(id - 1).toNat, by omega, by omega⟩

theorem nodup_firstKeys (n : Nat) : (firstKeys n).Nodup := by
  rw [firstKeys, List.Nodup, List.pairwise_map]
  refine List.nodup_range.imp ?_
  intro a b hne heq
  omega

/-- The rows of either table have the keys 1, 2, … in the order of insertion. -/
structure Keyed (s : Store) : Prop where
  users : s.users.map User.id = firstKeys s.lastUser
  sessions : s.sessions.map Session.id = firstKeys s.lastSession

theorem empty_keyed : empty.Keyed := ⟨rfl, rfl⟩

/-- Every change keeps the keys in order. -/
theorem Writes.keyed {e : Effect} (h : s.Writes e s') (hs : s.Keyed) : s'.Keyed := by
  cases h with
  | insertUser call u hcall free =>
    refine ⟨?_, hs.sessions⟩
    show (s.users ++ [keptUser (s.newUser u)]).map User.id = firstKeys (s.lastUser + 1)
    rw [List.map_append, hs.users, firstKeys_succ]
    rfl
  | replaceUser u row key free live =>
    refine ⟨?_, hs.sessions⟩
    refine (map_changeFirst User.id ?_).trans hs.users
    exact fun a ha => (isLiveUser_iff.1 ha).1.symm
  | markUser u row live =>
    have hkeys := map_changeFirst (p := isLiveUser u.id) (f := s.markedUser) (l := s.users) User.id
      fun _ _ => rfl
    exact ⟨hkeys.trans hs.users, hs.sessions⟩
  | insertSession x fresh =>
    refine ⟨hs.users, ?_⟩
    show (s.sessions ++ [keptSession (s.newSession x)]).map Session.id = firstKeys (s.lastSession + 1)
    rw [List.map_append, hs.sessions, firstKeys_succ]
    rfl
  | markSession x row live =>
    have hkeys := map_changeFirst (p := isLiveSession x.id) (f := s.markedSession)
      (l := s.sessions) Session.id fun _ _ => rfl
    exact ⟨hs.users, hkeys.trans hs.sessions⟩

namespace Keyed

theorem nodup_users (hs : s.Keyed) : (s.users.map User.id).Nodup := hs.users ▸ nodup_firstKeys _

theorem nodup_sessions (hs : s.Keyed) : (s.sessions.map Session.id).Nodup :=
  hs.sessions ▸ nodup_firstKeys _

/-- At most one row is the live row with a key. -/
theorem pairwise_isLiveUser (hs : s.Keyed) (id : Id) :
    s.users.Pairwise fun a b => isLiveUser id a = true → isLiveUser id b = false :=
  pairwise_live hs.nodup_users id

/-- At most one row is the live row with a key. -/
theorem pairwise_isLiveSession (hs : s.Keyed) (id : Id) :
    s.sessions.Pairwise fun a b => isLiveSession id a = true → isLiveSession id b = false :=
  pairwise_live hs.nodup_sessions id

end Keyed

/-! ### Looking rows up -/

section Lookup

variable {α : Type} {l : List α} {key : α → Id} {live : α → Bool}

/-- Where keys differ, the live row with a key is the only one that can be found. -/
theorem find?_live (unique : (l.map key).Nodup) {id : Id} {a : α} :
    (l.find? fun b => key b == id && live b) = some a ↔ a ∈ l ∧ key a = id ∧ live a = true := by
  have hfits {b : α} (hb : (l.find? fun b => key b == id && live b) = some b) :
      b ∈ l ∧ key b = id ∧ live b = true := by
    have hpred := List.find?_some hb
    rw [Bool.and_eq_true, beq_iff_eq] at hpred
    exact ⟨List.mem_of_find?_eq_some hb, hpred⟩
  refine ⟨hfits, ?_⟩
  rintro ⟨ha, rfl, hlive⟩
  have hsome : (l.find? fun b => key b == key a && live b).isSome = true := by
    rw [List.find?_isSome]
    exact ⟨a, ha, by rw [beq_self_eq_true, hlive, Bool.true_and]⟩
  obtain ⟨b, hb⟩ := Option.isSome_iff_exists.1 hsome
  -- what is found has the same key
  obtain ⟨hmem, hkey, -⟩ := hfits hb
  rw [hb, List.inj_on_of_nodup_map unique hmem ha hkey]

end Lookup

/-- Rows with the same key are the same, where keys differ. -/
theorem eq_of_id_eq (unique : (s.sessions.map Session.id).Nodup) {x y : Session}
    (hx : x ∈ s.sessions) (hy : y ∈ s.sessions) (hid : x.id = y.id) : x = y :=
  List.inj_on_of_nodup_map unique hx hy hid

/-- The live session with a key. -/
theorem liveSession?_eq_some (unique : (s.sessions.map Session.id).Nodup) {id : Id} {x : Session} :
    s.liveSession? id = some x ↔ x ∈ s.sessions ∧ x.id = id ∧ x.isLive = true :=
  find?_live unique

/-- The live user with a key. -/
theorem liveUser?_eq_some (unique : (s.users.map User.id).Nodup) {id : Id} {u : User} :
    s.liveUser? id = some u ↔ u ∈ s.users ∧ u.id = id ∧ u.isLive = true :=
  find?_live unique

namespace Keyed

/-- The key of a row has been handed out. -/
theorem handed_of_mem (hs : s.Keyed) {u : User} (hu : u ∈ s.users) :
    0 < u.id ∧ u.id ≤ s.lastUser := by
  rw [← mem_firstKeys, ← hs.users]
  exact List.mem_map_of_mem hu

/-- So has that of a session. -/
theorem handed_of_mem_sessions (hs : s.Keyed) {x : Session} (hx : x ∈ s.sessions) :
    0 < x.id ∧ x.id ≤ s.lastSession := by
  rw [← mem_firstKeys, ← hs.sessions]
  exact List.mem_map_of_mem hx

/-- Under each key that has been handed out there is a row. -/
theorem exists_user (hs : s.Keyed) {id : Id} (hpos : 0 < id) (handed : id ≤ s.lastUser) :
    ∃ u ∈ s.users, u.id = id := by
  have hid : id ∈ s.users.map User.id := by
    rw [hs.users, mem_firstKeys]
    exact ⟨hpos, handed⟩
  exact List.mem_map.1 hid

theorem mem_of_liveUser? (hs : s.Keyed) {id : Id} (h : (s.liveUser? id).isSome = true) :
    ∃ u ∈ s.users, u.id = id ∧ u.isLive = true := by
  obtain ⟨u, hu⟩ := Option.isSome_iff_exists.1 h
  exact ⟨u, (liveUser?_eq_some hs.nodup_users).1 hu⟩

/-- The key of a live user has been handed out. -/
theorem handed_of_live (hs : s.Keyed) {id : Id} (h : (s.liveUser? id).isSome = true) :
    0 < id ∧ id ≤ s.lastUser := by
  obtain ⟨u, hu, rfl, -⟩ := hs.mem_of_liveUser? h
  exact hs.handed_of_mem hu

/-- A row is live exactly if there is a live row with its key. -/
theorem isLive_iff (hs : s.Keyed) {u : User} (hu : u ∈ s.users) :
    u.isLive = true ↔ (s.liveUser? u.id).isSome = true := by
  constructor
  · intro hlive
    rw [(liveUser?_eq_some hs.nodup_users).2 ⟨hu, rfl, hlive⟩]
    rfl
  · intro h
    obtain ⟨v, hv, hid, hlive⟩ := hs.mem_of_liveUser? h
    obtain rfl := List.inj_on_of_nodup_map hs.nodup_users hv hu hid
    exact hlive

end Keyed

/-! ### What results tell -/

/-- A session that was inserted has the next key, and its row is the last one. -/
theorem create_session_ok {x y : Session} (h : s.callSessions (.create y) = (.ok x, s')) :
    x = s.newSession y ∧ s'.sessions = s.sessions ++ [keptSession x] := by
  simp only [callSessions, createSession] at h
  split at h
  · cases h
  · cases h
    exact ⟨rfl, rfl⟩

/-- A user who was inserted has the next key, and the row is the last one. -/
theorem create_user_ok {call : UserCall} {u v : User} (h : s.createUser call u = (.ok v, s')) :
    v = s.newUser u ∧ s'.users = s.users ++ [keptUser v] := by
  rw [createUser_eq] at h
  split at h
  · cases h
  · cases h
    exact ⟨rfl, rfl⟩

/-- A user who was saved under a key has taken the place of the live row. -/
theorem replace_user_ok {u v : User} (h : s.callUsers (.save u) = (.ok v, s')) (key : u.id ≠ 0) :
    ∃ row, s.liveUser? u.id = some row ∧ v = changedUser row u ∧
      s'.users = changeFirst (isLiveUser u.id) (fun _ => keptUser v) s.users := by
  simp only [callUsers, if_neg key, saveUser] at h
  split at h
  · cases h
  · cases live : s.liveUser? u.id with
    | none =>
      rw [live] at h
      cases h
    | some row =>
      rw [live] at h
      cases h
      exact ⟨row, rfl, rfl, rfl⟩

/-- A user who was saved under a key has kept it. -/
theorem save_user_ok {u v : User} (h : s.callUsers (.save v) = (.ok u, s')) (key : v.id ≠ 0) :
    u.id = v.id := by
  obtain ⟨row, -, rfl, -⟩ := replace_user_ok h key
  rfl

/-- Saving a user under a key leaves the keys of the table alone. -/
theorem replace_user_ids {u v : User} (h : s.callUsers (.save u) = (.ok v, s')) (key : u.id ≠ 0) :
    s'.users.map User.id = s.users.map User.id := by
  obtain ⟨row, -, rfl, husers⟩ := replace_user_ok h key
  rw [husers]
  exact map_changeFirst User.id fun a ha => (isLiveUser_iff.1 ha).1.symm

/-- The row of a user who was saved, under whatever key, is in the table. -/
theorem saved_user_mem {u v : User} (hs : s.Keyed) (h : s.callUsers (.save u) = (.ok v, s')) :
    keptUser v ∈ s'.users := by
  by_cases key : u.id = 0
  · -- without a key, saving is inserting
    simp only [callUsers, if_pos key] at h
    rw [(create_user_ok h).2]
    exact List.mem_append_right _ List.mem_cons_self
  · obtain ⟨row, live, -, husers⟩ := replace_user_ok h key
    have hchanged := changed_mem (hs.pairwise_isLiveUser u.id) (fun _ => keptUser v)
      (List.mem_of_find?_eq_some live)
    rw [if_pos (List.find?_some live)] at hchanged
    rwa [husers]

/-- A user who was deleted is marked, row and record, or nobody live has the key. -/
theorem delete_user_ok {u v : User} (h : s.callUsers (.delete u) = (.ok v, s')) :
    s.liveUser? u.id = none ∧ v = u ∧ s' = s ∨
      ∃ row, s.liveUser? u.id = some row ∧ v = s.markedUser u ∧
        s'.users = changeFirst (isLiveUser u.id) s.markedUser s.users := by
  simp only [callUsers, deleteUser] at h
  cases live : s.liveUser? u.id with
  | none =>
    rw [live] at h
    cases h
    exact .inl ⟨rfl, rfl, rfl⟩
  | some row =>
    rw [live] at h
    cases h
    exact .inr ⟨row, rfl, rfl, rfl⟩

/-- Behind its deletion a user is not live. -/
theorem deleted_user_dead {u v : User} (h : s.callUsers (.delete u) = (.ok v, s')) (hs : s.Keyed) :
    v.id = u.id ∧ s'.liveUser? u.id = none := by
  rcases delete_user_ok h with ⟨hnone, rfl, rfl⟩ | ⟨row, -, rfl, husers⟩
  · exact ⟨rfl, hnone⟩
  · refine ⟨rfl, ?_⟩
    rw [liveUser?, husers]
    exact find?_changeFirst_eq_none (hs.pairwise_isLiveUser u.id) fun _ => Bool.and_false _

/-- Behind its deletion a session is not live. -/
theorem delete_session_ok {x y : Session} (h : s.callSessions (.delete y) = (.ok x, s')) (hs : s.Keyed) :
    s'.liveSession? y.id = none := by
  simp only [callSessions, deleteSession] at h
  cases hlive : s.liveSession? y.id with
  | none =>
    rw [hlive] at h
    cases h
    exact hlive
  | some row =>
    rw [hlive] at h
    cases h
    exact find?_changeFirst_eq_none (hs.pairwise_isLiveSession y.id) fun _ => Bool.and_false _

/-- A user who was found by address is live. -/
theorem getByEmail_ok {email : String} {u : User}
    (h : s.callUsers (.getByEmail email) = (.ok (some u), s')) : (s.liveUser? u.id).isSome = true := by
  obtain ⟨hfound, -⟩ := Prod.mk.inj h
  obtain ⟨row, hrow, rfl⟩ := Option.map_eq_some_iff.1 (Except.ok.inj hfound)
  have hlive := List.find?_some hrow
  rw [Bool.and_eq_true] at hlive
  rw [liveUser?, List.find?_isSome]
  refine ⟨row, List.mem_of_find?_eq_some hrow, ?_⟩
  show (row.id == row.id && row.isLive) = true
  rw [beq_self_eq_true, hlive.2, Bool.true_and]

/-- A session that was listed is one of the user's, and live. -/
theorem listActive_ok {userId : Id} {now : Instant} {found : List Session} {y : Session}
    (h : s.callSessions (.listActive userId now) = (.ok found, s')) (hy : y ∈ found) :
    y ∈ s.sessions ∧ y.userId = userId ∧ y.isLive = true := by
  obtain ⟨hfound, -⟩ := Prod.mk.inj h
  rw [← Except.ok.inj hfound] at hy
  obtain ⟨hmem, hruns⟩ := List.mem_filter.1 hy
  rw [runsBeyond, Bool.and_eq_true, Bool.and_eq_true, beq_iff_eq] at hruns
  exact ⟨hmem, hruns.1⟩

end Turnstile.Store
