import Turnstile.Proofs.Store.Ends
import Turnstile.Proofs.Text.StoredForm

namespace Turnstile

/-!
# Well-formed stores

What is in order about the rows of a store, and which calls keep it so.

* `User.Sound` and `Session.Sound` are the rules for single records.
* `Store.WellFormed` puts together what holds of the tables: keys in order, sound rows, sessions of users
  that there are, and tokens that are told apart by their hashes.
* `SoundRows` is what there is to keep besides the keys. `Admits` holds of questions that bring only sound
  records, and `SoundRows.answers` says that these keep the rows sound.
* Records of users in the answers to such questions are sound, too (`save_sound` and the like).
-/

/-! ### Records -/

/-- No plain password, the word on the password is true, and fields are in stored form. -/
structure User.Sound (u : User) : Prop where
  password : u.password = none
  passwordSet : u.passwordSet = u.passwordHash.isSome
  email : ∀ email, u.email = some email → Email.Stored email
  givenNames : ∀ name, u.givenNames = some name → PersonName.Stored name
  surname : ∀ name, u.surname = some name → PersonName.Stored name

/-- The session says where it was opened from, until when, and what for, which is never impersonation. -/
structure Session.Sound (x : Session) : Prop where
  clientIp : x.clientIp ≠ ""
  issuable : x.purpose.isIssuable = true
  expireAt : x.expireAt.isSome = true

namespace User.Sound

variable {u : User} (h : u.Sound)

include h

theorem refreshPasswordSet : u.refreshPasswordSet.Sound :=
  ⟨h.password, rfl, h.email, h.givenNames, h.surname⟩

/-- Neither the key, nor the stamps, nor the word on the address matter. -/
theorem restamped (id : Id) (createdAt : Instant) (deletedAt : Option Instant) (emailVerified : Bool) :
    { u with id, createdAt, deletedAt, emailVerified }.Sound :=
  ⟨h.password, h.passwordSet, h.email, h.givenNames, h.surname⟩

end User.Sound

namespace Store

/-! ### Tables -/

/-- The keys of a table increase in the order of insertion and have been counted. -/
structure KeysInOrder (keys : List Id) (last : Nat) : Prop where
  increasing : keys.Pairwise (· < ·)
  counted : ∀ id ∈ keys, id ≤ last

/-- A store with everything in order. -/
structure WellFormed (s : Store) : Prop where
  userKeys : KeysInOrder (s.users.map User.id) s.lastUser
  sessionKeys : KeysInOrder (s.sessions.map Session.id) s.lastSession
  users : ∀ u ∈ s.users, u.Sound
  sessions : ∀ x ∈ s.sessions, x.Sound ∧ x.token = none
  owned : ∀ x ∈ s.sessions, ∃ u ∈ s.users, u.id = x.userId
  tokens : s.sessions.Pairwise fun x y => x.tokenHash ≠ y.tokenHash

/-- The first so many keys are in order. -/
theorem keysInOrder_firstKeys (n : Nat) : KeysInOrder (firstKeys n) n where
  increasing := by
    rw [firstKeys, List.pairwise_map]
    refine List.pairwise_lt_range.imp ?_
    intro a b hlt
    show (a : Int) + 1 < (b : Int) + 1
    omega
  counted := fun _ hid => (mem_firstKeys.1 hid).2

/-- The rows of a store, apart from their keys. -/
structure SoundRows (s : Store) : Prop where
  users : ∀ u ∈ s.users, u.Sound
  sessions : ∀ x ∈ s.sessions, x.Sound ∧ x.token = none
  owned : ∀ x ∈ s.sessions, 0 < x.userId ∧ x.userId ≤ s.lastUser
  tokens : s.sessions.Pairwise fun x y => x.tokenHash ≠ y.tokenHash

theorem empty_soundRows : empty.SoundRows where
  users := fun _ h => nomatch h
  sessions := fun _ h => nomatch h
  owned := fun _ h => nomatch h
  tokens := List.Pairwise.nil

/-- Sound rows under keys that are in order are all there is to it: under a key that was handed out there is
    a user. -/
theorem SoundRows.wellFormed {s : Store} (rows : s.SoundRows) (keyed : s.Keyed) : s.WellFormed where
  userKeys := keyed.users ▸ keysInOrder_firstKeys _
  sessionKeys := keyed.sessions ▸ keysInOrder_firstKeys _
  users := rows.users
  sessions := rows.sessions
  owned := fun x hx => keyed.exists_user (rows.owned x hx).1 (rows.owned x hx).2
  tokens := rows.tokens

/-! ### Calls -/

/-- The question brings only sound records: of users in sound form, and of sessions of users that there
    are. -/
def Admits (s : Store) : Effect → Prop
  | .users (.create u) | .users (.save u) | .users (.delete u) => u.Sound
  | .sessions (.create x) => x.Sound ∧ 0 < x.userId ∧ x.userId ≤ s.lastUser
  | _ => True

variable {s s' : Store} {u v row : User}

theorem newUser_sound (hu : u.Sound) : (s.newUser u).Sound :=
  (hu.restamped _ _ u.deletedAt u.emailVerified).refreshPasswordSet

theorem changedUser_sound (hu : u.Sound) : (changedUser row u).Sound :=
  (hu.restamped u.id _ u.deletedAt u.emailVerified).refreshPasswordSet

theorem markedUser_sound (hu : u.Sound) : (s.markedUser u).Sound :=
  hu.restamped u.id u.createdAt _ u.emailVerified

theorem keptUser_sound (hu : u.Sound) : (keptUser u).Sound :=
  ⟨rfl, hu.passwordSet, hu.email, hu.givenNames, hu.surname⟩

/-- **Every change that brings sound records keeps the rows sound.** -/
theorem Writes.soundRows {e : Effect} (h : s.Writes e s') (admits : s.Admits e) (rows : s.SoundRows) :
    s'.SoundRows := by
  have owned (x : Session) (hx : x ∈ s.sessions) : 0 < x.userId ∧ x.userId ≤ s'.lastUser :=
    ⟨(rows.owned x hx).1, Int.le_trans (rows.owned x hx).2 (Int.ofNat_le.2 h.lastUser_le)⟩
  cases h with
  | insertUser call u hcall free =>
    have hu : u.Sound := by rcases hcall with rfl | ⟨rfl, -⟩ <;> exact admits
    refine ⟨fun v hv => ?_, rows.sessions, owned, rows.tokens⟩
    rcases List.mem_append.1 hv with hv | hv
    · exact rows.users v hv
    · rw [List.mem_singleton.1 hv]
      exact keptUser_sound (newUser_sound hu)
  | replaceUser u row key free live =>
    refine ⟨fun v hv => ?_, rows.sessions, owned, rows.tokens⟩
    rcases mem_changeFirst hv with hv | ⟨w, -, -, rfl⟩
    · exact rows.users v hv
    · exact keptUser_sound (changedUser_sound admits)
  | markUser u row live =>
    refine ⟨fun v hv => ?_, rows.sessions, owned, rows.tokens⟩
    rcases mem_changeFirst hv with hv | ⟨w, hw, -, rfl⟩
    · exact rows.users v hv
    · exact markedUser_sound (rows.users w hw)
  | insertSession x fresh =>
    obtain ⟨hsound, howned⟩ := admits
    have hnew (y : Session) (hy : y ∈ [keptSession (s.newSession x)]) :
        (y.Sound ∧ y.token = none) ∧ 0 < y.userId ∧ y.userId ≤ s.lastUser := by
      rw [List.mem_singleton.1 hy]
      exact ⟨⟨⟨hsound.clientIp, hsound.issuable, hsound.expireAt⟩, rfl⟩, howned⟩
    refine ⟨rows.users, fun y hy => ?_, fun y hy => ?_, ?_⟩
    · exact (List.mem_append.1 hy).elim (rows.sessions y) fun hy => (hnew y hy).1
    · exact (List.mem_append.1 hy).elim (owned y) fun hy => (hnew y hy).2
    · -- the hash of the new session was looked for in the table
      refine List.pairwise_append.2 ⟨rows.tokens, List.pairwise_singleton _ _, fun y hy z hz => ?_⟩
      rw [List.mem_singleton.1 hz]
      intro heq
      have htaken : s.sessions.any (·.tokenHash == x.tokenHash) = true :=
        List.any_eq_true.2 ⟨y, hy, beq_iff_eq.2 heq⟩
      rw [htaken] at fresh
      cases fresh
  | markSession x row live =>
    have hmarked (y : Session) (hy : y ∈ changeFirst (isLiveSession x.id) s.markedSession s.sessions) :
        ∃ z ∈ s.sessions, y.userId = z.userId ∧ y.token = z.token ∧ (z.Sound → y.Sound) := by
      rcases mem_changeFirst hy with hy | ⟨z, hz, -, rfl⟩
      · exact ⟨y, hy, rfl, rfl, id⟩
      · exact ⟨z, hz, rfl, rfl, fun h => ⟨h.clientIp, h.issuable, h.expireAt⟩⟩
    refine ⟨rows.users, fun y hy => ?_, fun y hy => ?_, ?_⟩
    · obtain ⟨z, hz, -, htoken, hsound⟩ := hmarked y hy
      exact ⟨hsound (rows.sessions z hz).1, htoken.trans (rows.sessions z hz).2⟩
    · obtain ⟨z, hz, huser, -⟩ := hmarked y hy
      rw [huser]
      exact owned z hz
    · -- a mark leaves the hashes alone
      have hhashes := map_changeFirst (p := isLiveSession x.id) (f := s.markedSession)
        (l := s.sessions) Session.tokenHash fun _ _ => rfl
      have htokens := List.pairwise_map.2 rows.tokens
      rw [← hhashes] at htokens
      exact List.pairwise_map.1 htokens

/-- **An exchange that brings sound records keeps the rows sound.** -/
theorem SoundRows.answers {e : Effect} {answer : e.Answer} (rows : s.SoundRows) (admits : s.Admits e)
    (answers : s.Answers e answer s') : s'.SoundRows := by
  rcases answers.cases with rfl | hwrites
  · exact rows
  · exact hwrites.soundRows admits rows

/-! ### Answers -/

theorem createUser_sound {call : UserCall} (hu : u.Sound) (h : s.createUser call u = (.ok v, s')) :
    v.Sound := by
  rw [(create_user_ok h).1]
  exact newUser_sound hu

theorem save_sound (hu : u.Sound) (h : s.callUsers (.save u) = (.ok v, s')) : v.Sound := by
  by_cases key : u.id = 0
  · simp only [callUsers, if_pos key] at h
    exact createUser_sound hu h
  · obtain ⟨row, -, rfl, -⟩ := replace_user_ok h key
    exact changedUser_sound hu

theorem delete_sound (hu : u.Sound) (h : s.callUsers (.delete u) = (.ok v, s')) : v.Sound := by
  rcases delete_user_ok h with ⟨-, rfl, -⟩ | ⟨row, -, rfl, -⟩
  · exact hu
  · exact markedUser_sound hu

theorem getById_sound {id : Id} (rows : s.SoundRows) (h : s.callUsers (.getById id) = (.ok (some v), s')) :
    v.Sound := by
  obtain ⟨hfound, -⟩ := Prod.mk.inj h
  obtain ⟨row, hrow, rfl⟩ := Option.map_eq_some_iff.1 (Except.ok.inj hfound)
  exact (rows.users row (List.mem_of_find?_eq_some hrow)).refreshPasswordSet

end Store

end Turnstile
