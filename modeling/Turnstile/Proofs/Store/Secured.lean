import Turnstile.Proofs.Store.Deleted
import Turnstile.Proofs.Store.Ends

namespace Turnstile.Store

open Credential (Hasher)

/-!
# Who has which password

A hash that has been saved for a user stays with the user until the user is saved again.

* `Secured` says that a user has a hash, as long as the user is live.
* `secured_of_save` establishes it, `Writes.secured` keeps it through every change that does not save
  this user, and `secured_of_run` carries it through a run.
* `Secured.finds` is what it is for: whoever finds the user gets a record with this hash.
-/

/-- The live row with a key has this hash. -/
def Secured (s : Store) (id : Id) (hash : String) : Prop :=
  ∀ u ∈ s.users, isLiveUser id u = true → u.passwordHash = some hash

variable {s s' : Store} {id : Id} {hash : String} {u w : User}

/-- **A save with a hash** gives it to the user. -/
theorem secured_of_save (keyed : s.Keyed) (key : w.id ≠ 0) (hhash : w.passwordHash = some hash)
    (h : s.callUsers (.save w) = (.ok u, s')) : s'.Secured w.id hash := by
  simp only [callUsers, if_neg key, saveUser] at h
  split at h
  · cases h
  · split at h
    · cases h
    · next row _ =>
      cases h
      intro v hv hlive
      -- no row but the one that is put in is the live row
      have hrows : v ∈ changeFirst (isLiveUser w.id) (fun _ => keptUser (changedUser row w)) s.users := hv
      rw [changeFirst_eq_map (keyed.pairwise_isLiveUser w.id), List.mem_map] at hrows
      obtain ⟨v', -, rfl⟩ := hrows
      by_cases hv' : isLiveUser w.id v' = true
      · rw [if_pos hv']
        exact hhash
      · rw [if_neg hv'] at hlive
        exact absurd hlive hv'

/-- Whoever has been saved under a key has had it before. -/
theorem handed_of_save (keyed : s.Keyed) (key : w.id ≠ 0) (h : s.callUsers (.save w) = (.ok u, s')) :
    w.id ≤ s'.lastUser := by
  simp only [callUsers, if_neg key, saveUser] at h
  split at h
  · cases h
  · split at h
    · cases h
    · next row hlive =>
      cases h
      exact (keyed.handed_of_live (by rw [hlive]; rfl)).2

/-- **Every change but a save of this user keeps the hash.** -/
theorem Writes.secured {e : Effect} (h : s.Writes e s') (handed : id ≤ s.lastUser)
    (other : ∀ v, e = .users (.save v) → v.id ≠ id) (hs : s.Secured id hash) : s'.Secured id hash := by
  intro u hu hlive
  cases h with
  | insertUser call v hcall free =>
    rcases List.mem_append.1 hu with hu | hu
    · exact hs u hu hlive
    · -- the new row has a new key
      rw [List.mem_singleton.1 hu] at hlive
      have hne : (s.newUser v).id ≠ id := by
        show (s.lastUser : Int) + 1 ≠ id
        exact fun heq => absurd (Int.le_trans (Int.le_of_eq heq) handed) (by omega)
      rw [isLiveUser_of_ne (u := keptUser (s.newUser v)) hne] at hlive
      cases hlive
  | replaceUser v row key free live =>
    rcases mem_changeFirst hu with hu | ⟨_, -, -, rfl⟩
    · exact hs u hu hlive
    · rw [isLiveUser_of_ne (u := keptUser (changedUser row v)) (other v rfl)] at hlive
      cases hlive
  | markUser v row live =>
    rcases mem_changeFirst hu with hu | ⟨_, -, -, rfl⟩
    · exact hs u hu hlive
    · cases (isLiveUser_iff.1 hlive).2
  | _ => exact hs u hu hlive

/-- **A run in which nobody saves this user keeps the hash.** -/
theorem secured_of_run {h : Hasher} {a c : Crowd Store (Request × Job) (Except ServiceFailure Value)}
    {T : Trace Store} (run : (service h).Run a T c) (handed : id ≤ a.shared.lastUser)
    (other : ∀ k y, (k, y) ∈ T → ∀ v, y.effect = .users (.save v) → v.id ≠ id)
    (secured : a.shared.Secured id hash) : c.shared.Secured id hash := by
  refine (run.along (P := fun s => id ≤ s.lastUser ∧ s.Secured id hash) ⟨handed, secured⟩ ?_).2
  rintro k y hy answers ⟨handed, secured⟩
  rcases Store.Answers.cases answers with hsame | hwrites
  · exact hsame ▸ ⟨handed, secured⟩
  · exact ⟨Int.le_trans handed (Int.ofNat_le.2 hwrites.lastUser_le),
      hwrites.secured handed (other k y hy) secured⟩

/-- Whoever finds the user finds the hash. -/
theorem Secured.finds {x : Exchange Store} (secured : x.before.Secured id hash) (finds : x.Finds u)
    (hid : u.id = id) (answers : x.before.Answers x.effect x.answer x.after) :
    u.passwordHash = some hash := by
  obtain ⟨row, hrow, hlive, rfl⟩ := liveRow_of_finds finds answers
  exact secured row hrow (isLiveUser_iff.2 ⟨hid, hlive⟩)

end Turnstile.Store
