import Turnstile.Proofs.Store.Emails

namespace Turnstile.Store

/-!
# A store in which one row was replaced

Saving a live user puts another row in the place of its row, and leaves all other rows alone.

* `Replaced s id r t`: the users of `t` are those of `s`, with the row `r` for the live row with a key.
* What others have is the same in both (`Replaced.emailTaken`), and the new row is found
  (`Replaced.liveUser?`).
* `Replaced.save`: saving again replaces the row again, and there is nothing left of the row before.
-/

/-! ### Rows -/

section Rows

variable {α : Type} {p q : α → Bool} {l : List α} {a b : α}

/-- Of two changes of the same row, the second counts. -/
theorem changeFirst_changeFirst (ha : p a = true) :
    changeFirst p (fun _ => b) (changeFirst p (fun _ => a) l) = changeFirst p (fun _ => b) l := by
  induction l with
  | nil => rfl
  | cons c l ih =>
    by_cases hc : p c = true
    · simp [changeFirst, hc, ha]
    · simp [changeFirst, hc, ih]

/-- Putting a row in its own place changes nothing. -/
theorem changeFirst_self (h : l.find? p = some a) : changeFirst p (fun _ => a) l = l := by
  induction l with
  | nil => rfl
  | cons c l ih =>
    by_cases hc : p c = true
    · rw [List.find?_cons_of_pos hc] at h
      cases h
      rw [changeFirst, if_pos hc]
    · rw [List.find?_cons_of_neg hc] at h
      rw [changeFirst, if_neg hc, ih h]

/-- A row that was put in is found. -/
theorem find?_changeFirst (ha : p a = true) (h : (l.find? p).isSome = true) :
    (changeFirst p (fun _ => a) l).find? p = some a := by
  induction l with
  | nil => cases h
  | cons c l ih =>
    by_cases hc : p c = true
    · rw [changeFirst, if_pos hc, List.find?_cons_of_pos ha]
    · rw [List.find?_cons_of_neg hc] at h
      rw [changeFirst, if_neg hc, List.find?_cons_of_neg hc, ih h]

/-- The other rows are the same. -/
theorem any_changeFirst (ha : q a = false) (hq : ∀ c, p c = true → q c = false) :
    (changeFirst p (fun _ => a) l).any q = l.any q := by
  induction l with
  | nil => rfl
  | cons c l ih =>
    by_cases hc : p c = true
    · rw [changeFirst, if_pos hc, List.any_cons, List.any_cons, ha, hq c hc]
    · rw [changeFirst, if_neg hc, List.any_cons, List.any_cons, ih]

end Rows

/-! ### Stores -/

variable {s t t' : Store} {id : Id} {r w : User} {email : String}

/-- The users of `t` are those of `s`, with `r` for the live row with a key. -/
structure Replaced (s : Store) (id : Id) (r : User) (t : Store) : Prop where
  users : t.users = changeFirst (isLiveUser id) (fun _ => r) s.users
  fits : isLiveUser id r = true

theorem replaced_self (h : s.liveUser? id = some r) : Replaced s id r s :=
  ⟨(changeFirst_self h).symm, List.find?_some h⟩

/-- An address that is free for a user is not found but with this user. -/
theorem getByEmail_of_free (keyed : s.Keyed) (free : s.emailTaken (some email) id = false)
    (live : s.liveUser? id = some r) (hr : r.email ≠ some email) :
    s.callUsers (.getByEmail email) = (.ok none, s) := by
  have hnone : s.users.find? (hasEmail email) = none := by
    rw [List.find?_eq_none]
    intro v hv hhas
    obtain ⟨hemail, hlive⟩ := hasEmail_iff.1 hhas
    -- it could only be the user itself, who has another address
    have hid := emailTaken_eq_false_iff.1 free rfl v hv hlive hemail
    have hfound := (liveUser?_eq_some keyed.nodup_users).2 ⟨hv, hid, hlive⟩
    obtain rfl := Option.some.inj (live.symm.trans hfound)
    exact hr hemail
  show (Except.ok ((s.users.find? (hasEmail email)).map User.refreshPasswordSet), s) = _
  rw [hnone]
  rfl

namespace Replaced

variable (h : Replaced s id r t)

include h

/-- Where nobody's row is touched, all is as before. -/
theorem of_users_eq (hsame : t'.users = t.users) : Replaced s id r t' := ⟨hsame.trans h.users, h.fits⟩

/-- The row that was put in is the live row. -/
theorem liveUser? (live : (s.liveUser? id).isSome = true) : t.liveUser? id = some r := by
  rw [Store.liveUser?, h.users]
  exact find?_changeFirst h.fits live

/-- An address is in use by others exactly if it was. -/
theorem emailTaken (email : Option String) : t.emailTaken email id = s.emailTaken email id := by
  have hmine (v : User) (hv : isLiveUser id v = true) :
      (v.isLive && v.id != id && v.email == email) = false := by
    rw [(isLiveUser_iff.1 hv).1, bne_self_eq_false, Bool.and_false, Bool.false_and]
  have hany : (changeFirst (isLiveUser id) (fun _ => r) s.users).any
      (fun v => v.isLive && v.id != id && v.email == email) = s.users.any _ :=
    any_changeFirst (hmine r h.fits) hmine
  rw [Store.emailTaken, Store.emailTaken, h.users, hany]

/-- **Saving again**: the row is replaced by what is saved, whatever it was before. -/
theorem save (live : (s.liveUser? id).isSome = true) (key : id ≠ 0) (hw : isLiveUser id w = true)
    (free : s.emailTaken w.email id = false) :
    ∃ t', t.callUsers (.save w) = (.ok (changedUser r w), t') ∧
      Replaced s id (keptUser (changedUser r w)) t' := by
  obtain ⟨rfl, hlive⟩ := isLiveUser_iff.1 hw
  have hfree := h.emailTaken w.email
  rw [free] at hfree
  refine ⟨{ t with users := changeFirst (isLiveUser w.id) (fun _ => keptUser (changedUser r w)) t.users },
    ?_, ?_, hw⟩
  · simp only [callUsers, if_neg key, saveUser, hfree, h.liveUser? live]
    rfl
  · rw [h.users]
    exact changeFirst_changeFirst h.fits

end Replaced

/-- A live user's own address is not in use by others. -/
theorem UniqueEmails.free (h : s.UniqueEmails) (keyed : s.Keyed) (live : s.liveUser? id = some r) :
    s.emailTaken r.email id = false := by
  obtain ⟨hmem, hid, hlive⟩ := (liveUser?_eq_some keyed.nodup_users).1 live
  cases hemail : r.email with
  | none => rfl
  | some email =>
    refine emailTaken_eq_false_iff.2 fun _ v hv hvLive hvEmail => ?_
    rw [h.eq_of_hasEmail hv hmem (hasEmail_iff.2 ⟨hvEmail, hvLive⟩) (hasEmail_iff.2 ⟨hemail, hlive⟩), hid]

end Turnstile.Store
