import Turnstile.Proofs.Service.Jobs

namespace Turnstile.Store

/-!
# Addresses of live users

* `UniqueEmails`: no two live users have the same address. Every change of the store keeps it.
* `emailHolder?` is the key of the live user who has an address; inserting a user succeeds exactly if it
  finds nobody, and lookups by address find exactly it.
-/

/-- Whether a row is live and has the address. -/
def hasEmail (email : String) (u : User) : Bool := u.email == some email && u.isLive

theorem hasEmail_iff {email : String} {u : User} :
    hasEmail email u = true ↔ u.email = some email ∧ u.isLive = true := by
  rw [hasEmail, Bool.and_eq_true, beq_iff_eq]

/-- Not both rows are live with the same address. -/
def Apart (a b : User) : Prop :=
  a.isLive = true → b.isLive = true → a.email.isSome = true → a.email ≠ b.email

theorem Apart.symm {a b : User} (h : Apart a b) : Apart b a := by
  intro hb ha hsome heq
  exact h ha hb (heq ▸ hsome) heq.symm

/-- A row that is not live is in nobody's way. -/
theorem apart_of_dead {a b : User} (h : a.isLive = false) : Apart a b := by
  intro hlive
  rw [h] at hlive
  cases hlive

/-- No two live users have the same address. -/
def UniqueEmails (s : Store) : Prop := s.users.Pairwise Apart

theorem empty_uniqueEmails : empty.UniqueEmails := List.Pairwise.nil

variable {s s' : Store} {email : String}

/-- **At most one live row has a given address.** -/
theorem UniqueEmails.length_filter_le_one (h : s.UniqueEmails) (email : String) :
    (s.users.filter (hasEmail email)).length ≤ 1 := by
  have hfilter : (s.users.filter (hasEmail email)).Pairwise Apart := h.filter _
  match hl : s.users.filter (hasEmail email) with
  | [] => exact Nat.zero_le 1
  | [_] => exact Nat.le_refl 1
  | a :: b :: l =>
    -- the first two would be live with the same address
    rw [hl] at hfilter
    have hhas (u : User) (hu : u ∈ a :: b :: l) : u.email = some email ∧ u.isLive = true := by
      rw [← hl, List.mem_filter, hasEmail_iff] at hu
      exact hu.2
    obtain ⟨ha, halive⟩ := hhas a (by simp)
    obtain ⟨hb, hblive⟩ := hhas b (by simp)
    have hapart : Apart a b := (List.pairwise_cons.1 hfilter).1 b (by simp)
    exact absurd (ha.trans hb.symm) (hapart halive hblive (by rw [ha]; rfl))

/-- Live rows with the same address are the same row. -/
theorem UniqueEmails.eq_of_hasEmail (h : s.UniqueEmails) {a b : User} (ha : a ∈ s.users)
    (hb : b ∈ s.users) (haEmail : hasEmail email a = true) (hbEmail : hasEmail email b = true) : a = b := by
  have hle := h.length_filter_le_one email
  have ha' := List.mem_filter.2 ⟨ha, haEmail⟩
  have hb' := List.mem_filter.2 ⟨hb, hbEmail⟩
  match hl : s.users.filter (hasEmail email) with
  | [] =>
    rw [hl] at ha'
    cases ha'
  | [row] =>
    rw [hl, List.mem_singleton] at ha' hb'
    rw [ha', hb']
  | _ :: _ :: _ =>
    rw [hl] at hle
    simp at hle

/-- Whoever has an address is found by it. -/
theorem UniqueEmails.find?_hasEmail (h : s.UniqueEmails) {a : User} (ha : a ∈ s.users)
    (haEmail : hasEmail email a = true) : s.users.find? (hasEmail email) = some a := by
  obtain ⟨b, hb⟩ := Option.isSome_iff_exists.1 (List.find?_isSome.2 ⟨a, ha, haEmail⟩)
  rw [hb, h.eq_of_hasEmail (List.mem_of_find?_eq_some hb) ha (List.find?_some hb) haEmail]

/-- What it means that an address is free for a user. -/
theorem emailTaken_eq_false_iff {email : Option String} {id : Id} : s.emailTaken email id = false ↔
    (email.isSome = true → ∀ u ∈ s.users, u.isLive = true → u.email = email → u.id = id) := by
  rw [emailTaken, Bool.and_eq_false_imp, List.any_eq_false]
  refine imp_congr_right fun _ => forall₂_congr fun u _ => ?_
  rw [Bool.and_eq_true, Bool.and_eq_true, bne_iff_ne, beq_iff_eq]
  constructor
  · intro free live heq
    by_contra hne
    exact free ⟨⟨live, hne⟩, heq⟩
  · rintro own ⟨⟨live, hne⟩, heq⟩
    exact hne (own live heq)

/-- **Every change keeps the addresses of live users apart.** -/
theorem Writes.uniqueEmails {e : Effect} (h : s.Writes e s') (hkeys : s.Keyed)
    (hs : s.UniqueEmails) : s'.UniqueEmails := by
  cases h with
  | insertUser call u hcall free =>
    show (s.users ++ [keptUser (s.newUser u)]).Pairwise Apart
    rw [List.pairwise_append]
    refine ⟨hs, List.pairwise_singleton _ _, ?_⟩
    -- an old row against the new one: its key is not 0, so the address was looked for in it
    intro a ha b hb
    obtain rfl := List.mem_singleton.1 hb
    have hpos : a.id ≠ 0 := Int.ne_of_gt (mem_firstKeys.1 (hkeys.users ▸ List.mem_map_of_mem ha)).1
    intro live _ hsome heq
    have heq : a.email = u.email := heq
    exact hpos (emailTaken_eq_false_iff.1 free (heq ▸ hsome) a ha live heq)
  | replaceUser u row key free live =>
    show (changeFirst _ _ s.users).Pairwise Apart
    rw [changeFirst_eq_map (hkeys.pairwise_isLiveUser u.id), List.pairwise_map]
    -- the replaced row against another one: live and with the same address, it would have the same key
    have hother (a : User) (ha : a ∈ s.users) (hne : ¬ isLiveUser u.id a = true) :
        Apart (keptUser (changedUser row u)) a := by
      intro _ halive hsome heq
      exact hne (isLiveUser_iff.2 ⟨emailTaken_eq_false_iff.1 free hsome a ha halive heq.symm, halive⟩)
    refine (hs.and (hkeys.pairwise_isLiveUser u.id)).imp_of_mem ?_
    rintro a b ha hb ⟨hab, hone⟩
    by_cases hpa : isLiveUser u.id a = true
    · rw [if_pos hpa, if_neg (by rw [hone hpa]; exact Bool.false_ne_true)]
      exact hother b hb (by rw [hone hpa]; exact Bool.false_ne_true)
    · rw [if_neg hpa]
      by_cases hpb : isLiveUser u.id b = true
      · rw [if_pos hpb]
        exact (hother a ha hpa).symm
      · rw [if_neg hpb]
        exact hab
  | markUser u row live =>
    show (changeFirst _ _ s.users).Pairwise Apart
    rw [changeFirst_eq_map (hkeys.pairwise_isLiveUser u.id), List.pairwise_map]
    -- a row that is marked is no longer live
    have hmark (a : User) : (s.markedUser a).isLive = false := rfl
    refine hs.imp ?_
    intro a b hab
    by_cases hpa : isLiveUser u.id a = true
    · rw [if_pos hpa]
      exact apart_of_dead (hmark a)
    · rw [if_neg hpa]
      by_cases hpb : isLiveUser u.id b = true
      · rw [if_pos hpb]
        exact (apart_of_dead (hmark b)).symm
      · rw [if_neg hpb]
        exact hab
  | insertSession x fresh => exact hs
  | markSession x row live => exact hs

/-- So does every exchange. -/
theorem Answers.uniqueEmails {e : Effect} {answer : e.Answer} (h : s.Answers e answer s') (hkeys : s.Keyed)
    (hs : s.UniqueEmails) : s'.UniqueEmails := by
  rcases h.cases with rfl | hwrites
  · exact hs
  · exact hwrites.uniqueEmails hkeys hs

section Run

variable {h : Credential.Hasher} {T : Trace Store}
  {c : Crowd Store (Request × Job) (Except ServiceFailure Value)}

/-- In every run from the empty store, the addresses of live users stay apart. -/
theorem uniqueEmails_of_run (run : (service h).Run .nobody T c) : c.shared.UniqueEmails := by
  have hinv : c.shared.Keyed ∧ c.shared.UniqueEmails := by
    refine run.invariant (P := fun s => s.Keyed ∧ s.UniqueEmails) ⟨empty_keyed, empty_uniqueEmails⟩ ?_
    rintro x hx ⟨hkeyed, hunique⟩
    exact ⟨Answers.keyed hx hkeyed, Answers.uniqueEmails hx hkeyed hunique⟩
  exact hinv.2

/-- So they do in front of each exchange. -/
theorem uniqueEmails_of_mem (run : (service h).Run .nobody T c) {i : Nat} {x : Exchange Store}
    (hx : (i, x) ∈ T) : x.before.UniqueEmails := by
  obtain ⟨_, _, b, -, hb, hbefore, -⟩ := run.cut hx
  exact hbefore ▸ uniqueEmails_of_run hb

end Run

/-! ### Who has an address -/

/-- The key of the live user who has an address. -/
def emailHolder? (s : Store) (email : String) : Option Id :=
  (s.users.find? (hasEmail email)).map User.id

/-- Somebody has an address exactly if a live row holds it. -/
theorem emailHolder?_isSome : (s.emailHolder? email).isSome = true ↔
    ∃ row ∈ s.users, row.isLive = true ∧ row.email = some email := by
  rw [emailHolder?, Option.isSome_map, List.find?_isSome]
  exact exists_congr fun row => and_congr_right fun _ => hasEmail_iff.trans and_comm

/-- Who has an address, where addresses are apart. -/
theorem UniqueEmails.emailHolder?_eq_some (hs : s.UniqueEmails) {id : Id} :
    s.emailHolder? email = some id ↔ ∃ row ∈ s.users, row.id = id ∧ hasEmail email row = true := by
  constructor
  · intro holder
    obtain ⟨row, hrow, hid⟩ := Option.map_eq_some_iff.1 holder
    exact ⟨row, List.mem_of_find?_eq_some hrow, hid, List.find?_some hrow⟩
  · rintro ⟨row, hrow, rfl, hhas⟩
    rw [emailHolder?, hs.find?_hasEmail hrow hhas]
    rfl

/-- A lookup by address finds somebody exactly if somebody has it. -/
theorem getByEmail_answer (s : Store) (email : String) :
    ∃ found : Option User, s.callUsers (.getByEmail email) = (.ok found, s) ∧
      found.map User.id = s.emailHolder? email := by
  refine ⟨_, rfl, ?_⟩
  rw [emailHolder?, Option.map_map]
  rfl

/-- For a new user, an address is taken exactly if somebody has it. -/
theorem emailTaken_zero (hs : s.Keyed) :
    s.emailTaken (some email) 0 = (s.emailHolder? email).isSome := by
  rw [Bool.eq_iff_iff, emailTaken, emailHolder?, Option.isSome_map, List.find?_isSome,
    Option.isSome_some, Bool.true_and, List.any_eq_true]
  refine exists_congr fun a => and_congr_right fun ha => ?_
  have hpos : a.id ≠ 0 := Int.ne_of_gt (mem_firstKeys.1 (hs.users ▸ List.mem_map_of_mem ha)).1
  simp [hasEmail, hpos, and_comm]

/-- A new user with an address that nobody has is who has it afterwards. -/
theorem createUser_of_free (hs : s.Keyed) (call : UserCall) {u : User}
    (hemail : u.email = some email) (live : u.isLive = true) (free : s.emailHolder? email = none) :
    ∃ s', s.createUser call u = (.ok (s.newUser u), s') ∧
      s'.emailHolder? email = some (s.newUser u).id := by
  have htaken : s.emailTaken u.email 0 = false := by
    rw [hemail, emailTaken_zero hs, free]
    rfl
  refine ⟨_, by rw [createUser_eq, htaken]; rfl, ?_⟩
  have hnone : s.users.find? (hasEmail email) = none := Option.map_eq_none_iff.1 free
  have hnew : hasEmail email (keptUser (s.newUser u)) = true := hasEmail_iff.2 ⟨hemail, live⟩
  show ((s.users ++ [keptUser (s.newUser u)]).find? (hasEmail email)).map User.id = _
  rw [List.find?_append, hnone, Option.none_or, List.find?_cons_of_pos hnew]
  rfl

/-- A new user with an address that somebody has is refused. -/
theorem createUser_of_taken (hs : s.Keyed) (call : UserCall) {u : User}
    (hemail : u.email = some email) (taken : (s.emailHolder? email).isSome = true) :
    s.createUser call u = (.error (emailViolation call), s) := by
  have htaken : s.emailTaken u.email 0 = true := by
    rw [hemail, emailTaken_zero hs, taken]
  rw [createUser_eq, if_pos htaken]

end Turnstile.Store
