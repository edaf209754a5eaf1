import Turnstile.Proofs.Accounts.StaleCopy

namespace Turnstile.Accounts

open Credential (Hasher)
open Service (leads_bind_ok leads_map leads_perform leads_pure leads_sessions)
open Update (Quiet)

/-!
# The course of a change of password

What an update with a new password has been answered, one exchange after another, when it succeeds.

* `signOut_leads`: a sign-out reads the clock, lists the running sessions, and deletes each but the one
  to keep.
* `Changed` is the course of the whole: the save comes first, the sign-out right behind it, and nothing
  is saved again. `changed_of_finished` finds it in a run.
-/

variable {xs : List (Exchange Store)} {u saved : User} {keep : Option Id}

/-! ### Signing out -/

/-- Each session of a list but the one to keep has been deleted, and no other. -/
structure DeletedEach (keep : Option Id) (l : List Session) (xs : List (Exchange Store)) : Prop where
  all : ∀ y ∈ l, some y.id ≠ keep → ∃ z before after, ⟨.sessions (.delete y), .ok z, before, after⟩ ∈ xs
  only : ∀ x ∈ xs, ∀ y, x.effect = .sessions (.delete y) → y ∈ l

/-- What follows and deletes nothing does not matter. -/
theorem DeletedEach.append {l : List Session} {xs ys : List (Exchange Store)} (h : DeletedEach keep l xs)
    (hys : ∀ x ∈ ys, ∀ y, x.effect ≠ .sessions (.delete y)) : DeletedEach keep l (xs ++ ys) where
  all := by
    intro y hy hne
    obtain ⟨z, before, after, hmem⟩ := h.all y hy hne
    exact ⟨z, before, after, List.mem_append_left _ hmem⟩
  only := by
    intro x hx y hdelete
    rcases List.mem_append.1 hx with hx | hx
    · exact h.only x hx y hdelete
    · exact absurd hdelete (hys x hx y)

/-- **The loop** makes one deletion for each session of the list but the one to keep, in the order of the
    list, and nothing else. Each of them succeeds, and is counted. -/
theorem deleteEach_leads {context : String} {l : List Session} {n : Nat}
    (h : (deleteEach context keep l).run.Leads xs (.done (.ok n))) :
    xs.map (·.effect) = (l.filter fun y => some y.id ≠ keep).map (fun y => .sessions (.delete y)) ∧
      (∀ x ∈ xs, ∃ y z before after, x = ⟨.sessions (.delete y), .ok z, before, after⟩) ∧ n = xs.length := by
  induction l generalizing xs n with
  | nil =>
    obtain ⟨rfl, rfl⟩ := leads_pure.1 h
    exact ⟨rfl, fun _ hx => (nomatch hx), rfl⟩
  | cons y l ih =>
    by_cases hkeep : some y.id = keep
    · rw [deleteEach, if_pos hkeep] at h
      rw [List.filter_cons_of_neg (by simpa using hkeep)]
      exact ih h
    · rw [deleteEach, if_neg hkeep] at h
      -- one deletion, and then the rest of the list
      obtain ⟨_, _, y', rfl, hdelete, hrest⟩ := leads_bind_ok.1 h
      obtain ⟨before, after, rfl⟩ := leads_sessions.1 hdelete
      obtain ⟨zs, _, m, rfl, hloop, hend⟩ := leads_bind_ok.1 hrest
      obtain ⟨rfl, rfl⟩ := leads_pure.1 hend
      rw [List.append_nil, List.filter_cons_of_pos (by simpa using hkeep)]
      obtain ⟨heffects, hall, hn⟩ := ih hloop
      refine ⟨congrArg (Effect.sessions (.delete y) :: ·) heffects, fun x hx => ?_, congrArg Nat.succ hn⟩
      rcases List.mem_cons.1 hx with rfl | hx
      · exact ⟨y, y', before, after, rfl⟩
      · exact hall x hx

/-- So each session of the list but the one to keep has been deleted. -/
theorem deletedEach_of_leads {context : String} {l : List Session} {n : Nat}
    (h : (deleteEach context keep l).run.Leads xs (.done (.ok n))) : DeletedEach keep l xs := by
  obtain ⟨heffects, hall, -⟩ := deleteEach_leads h
  have hiff (y : Session) : (∃ x ∈ xs, x.effect = .sessions (.delete y)) ↔ y ∈ l ∧ some y.id ≠ keep := by
    rw [← List.mem_map, heffects, List.mem_map]
    simp
  refine ⟨fun y hy hne => ?_, fun x hx y hdelete => ((hiff y).1 ⟨x, hx, hdelete⟩).1⟩
  obtain ⟨x, hx, hdelete⟩ := (hiff y).2 ⟨hy, hne⟩
  obtain ⟨y', z, before, after, rfl⟩ := hall x hx
  cases hdelete
  exact ⟨z, before, after, hx⟩

/-- A sign-out reads the clock, lists the running sessions, and goes through the list. -/
theorem signOut_leads_loop {context : String} {userId : Id} {n : Nat}
    (h : (signOut context userId keep).run.Leads xs (.done (.ok n))) :
    ∃ t found b a b' a' rest, (deleteEach context keep found).run.Leads rest (.done (.ok n)) ∧
      xs = ⟨.clock, t, b, a⟩ :: ⟨.sessions (.listActive userId t), .ok found, b', a'⟩ :: rest := by
  obtain ⟨ys, zs, t, rfl, hclock, hrest⟩ := leads_bind_ok.1 h
  obtain ⟨b, a, rfl⟩ := leads_perform.1 hclock
  obtain ⟨ys, rest, found, rfl, hlist, hloop⟩ := leads_bind_ok.1 hrest
  obtain ⟨b', a', rfl⟩ := leads_sessions.1 hlist
  exact ⟨t, found, b, a, b', a', rest, hloop, rfl⟩

/-- **A sign-out** reads the clock, lists the running sessions, and deletes each but the one to keep. -/
theorem signOut_leads {context : String} {userId : Id} {n : Nat}
    (h : (signOut context userId keep).run.Leads xs (.done (.ok n))) :
    ∃ t found b a b' a' rest, DeletedEach keep found rest ∧
      xs = ⟨.clock, t, b, a⟩ :: ⟨.sessions (.listActive userId t), .ok found, b', a'⟩ :: rest := by
  obtain ⟨t, found, b, a, b', a', rest, hloop, rfl⟩ := signOut_leads_loop h
  exact ⟨t, found, b, a, b', a', rest, deletedEach_of_leads hloop, rfl⟩

/-- So does signing out whoever else is signed in. -/
theorem signOutOthers_leads {r : Request} {active : Option Session}
    (h : (signOutOthers r u active).run.Leads xs (.done (.ok ()))) :
    ∃ t found b a b' a' rest, DeletedEach (active.map (·.id)) found rest ∧
      xs = ⟨.clock, t, b, a⟩ :: ⟨.sessions (.listActive u.id t), .ok found, b', a'⟩ :: rest := by
  obtain ⟨_, _, n, rfl, hsignOut, hlog⟩ := leads_bind_ok.1 h
  obtain ⟨t, found, b, a, b', a', rest, hdeleted, rfl⟩ := signOut_leads hsignOut
  obtain ⟨b₃, a₃, rfl⟩ := leads_perform.1 hlog
  refine ⟨t, found, b, a, b', a', _, hdeleted.append ?_, rfl⟩
  -- the entry in the log deletes nothing
  intro x hx y hdelete
  rw [List.mem_singleton.1 hx] at hdelete
  cases hdelete

/-! ### The whole update -/

/-- What is saved for a new password is a hash of it. -/
theorem Update.Saves.hashed {h : Hasher} {fields : Fields} {w : User} {password : String}
    (saves : Update.Saves h fields u w) (hpassword : fields.password = some password) :
    ∃ salt hash, h.create salt password = .ok hash ∧ w.passwordHash = some hash := by
  obtain ⟨hash, hhashed, rfl⟩ := saves
  rw [hpassword] at hhashed
  cases hhashed with
  | made salt _ hash create => exact ⟨salt, hash, create, rfl⟩

/-- The exchanges of an update with a new password: the user is saved once, then the clock is read and the
    running sessions are listed, and each of them but the active one is deleted. -/
inductive Changed (active : Option Session) (saved : User) : List (Exchange Store) → Prop where
  | intro (w : User) (t : Instant) (found : List Session) (pre post : List (Exchange Store))
      (b a b₁ a₁ b₂ a₂ : Store) (deleted : DeletedEach (active.map (·.id)) found post) (quiet : Quiet post) :
      Changed active saved (pre ++ ⟨.users (.save w), .ok saved, b, a⟩ :: ⟨.clock, t, b₁, a₁⟩ ::
        ⟨.sessions (.listActive saved.id t), .ok found, b₂, a₂⟩ :: post)

/-- **An update with a new password that succeeds** has taken this course. -/
theorem changed_of_leads {h : Hasher} {r : Request} {active : Option Session} {d : UserDraft}
    {fields : Fields} (hfields : check d = .ok fields) (hpassword : fields.password.isSome = true)
    (hupdate : (update h r (some u) active (some d)).run.Leads xs (.done (.ok saved))) :
    Changed active saved xs := by
  rw [update_of_check hfields] at hupdate
  -- the address, the password, the save, the sign-out
  obtain ⟨pre₁, _, u₁, rfl, -, hrest₁⟩ := leads_bind_ok.1 hupdate
  obtain ⟨pre₂, _, u₂, rfl, -, hrest₂⟩ := leads_bind_ok.1 hrest₁
  obtain ⟨_, _, v, rfl, hsave, hrest₃⟩ := leads_bind_ok.1 hrest₂
  generalize User.mk _ _ _ _ _ _ _ _ _ _ = w at hsave
  obtain ⟨answer, b, a, rfl, hanswer⟩ := save_leads hsave
  obtain rfl := hanswer v rfl
  simp only [if_pos hpassword] at hrest₃
  obtain ⟨_, _, ⟨⟩, rfl, hothers, hend⟩ := leads_bind_ok.1 hrest₃
  obtain ⟨rfl, rfl⟩ := leads_pure.1 hend
  have hquiet := (signOutOthers_asks (P := fun e => ∀ w, e ≠ .users (.save w))
    (by rintro _ he w rfl; exact he) saved active).program.of_leads hothers
  obtain ⟨t, found, b₁, a₁, b₂, a₂, rest, hdeleted, rfl⟩ := signOutOthers_leads hothers
  have hquiet' : Quiet rest := fun y hy => hquiet y (List.mem_cons_of_mem _ (List.mem_cons_of_mem _ hy))
  simpa using Changed.intro w t found (pre₁ ++ pre₂) rest b a b₁ a₁ b₂ a₂ hdeleted hquiet'

/-- What such an update has been through in a run. -/
theorem changed_of_finished {h : Hasher} {T : Trace Store}
    {c : Crowd Store (Request × Job) (Except ServiceFailure Value)} {i : Nat} {r : Request}
    {active : Option Session} {d : UserDraft} {fields : Fields} (run : (service h).Run .nobody T c)
    (hfields : check d = .ok fields) (hpassword : fields.password.isSome = true)
    (hi : c.Finished i (r, .update (some u) active (some d)) (.ok (.user saved))) :
    Changed active saved (T.own i) := by
  have hleads : (update h r (some u) active (some d) >>= fun v => pure (Value.user v) :
      Service Value).run.Leads (T.own i) (.done (.ok (.user saved))) := run.leads hi
  obtain ⟨result, hupdate, hvalue⟩ := leads_map.1 hleads
  cases result <;> cases hvalue
  exact changed_of_leads hfields hpassword hupdate

end Turnstile.Accounts
