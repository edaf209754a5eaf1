import Turnstile.Proofs.Service.Jobs

namespace Turnstile

/-!
# Rows that are marked as deleted

A user whose row is marked is out of reach of every call on the store.

* `Store.Writes.mem_of_dead`: no change touches the row; `Store.dead_of_run` carries this through a run.
* `Exchange.Finds` holds of the lookups that find a user, and `Store.liveRow_of_finds` says that what is
  found is live.
* `Store.save_of_dead`: nothing can be saved under the key of the row. `Store.save_of_gone` says which
  failure it is.
-/

namespace Store

variable {s s' : Store} {e : Effect} {row u : User}

/-! ### The row -/

theorem isLiveUser_of_dead (dead : row.isLive = false) (id : Id) : isLiveUser id row = false := by
  rw [isLiveUser, dead, Bool.and_false]

/-- **A marked row stays as it is** under every change of the store. -/
theorem Writes.mem_of_dead (h : s.Writes e s') (keyed : s.Keyed) (hrow : row ∈ s.users)
    (dead : row.isLive = false) : row ∈ s'.users := by
  -- only live rows are changed
  have hstays (id : Id) (f : User → User) : row ∈ changeFirst (isLiveUser id) f s.users := by
    have hmem := changed_mem (keyed.pairwise_isLiveUser id) f hrow
    rwa [isLiveUser_of_dead dead id, if_neg Bool.false_ne_true] at hmem
  cases h with
  | insertUser call v hcall free => exact List.mem_append_left _ hrow
  | replaceUser v old key free live => exact hstays v.id _
  | markUser v old live => exact hstays v.id _
  | insertSession x fresh => exact hrow
  | markSession x old live => exact hrow

section Run

variable {h : Credential.Hasher}
  {a c : Crowd Store (Request × Job) (Except ServiceFailure Value)} {T : Trace Store}

/-- Where keys are in order and a marked row is there, both stay so. -/
theorem dead_of_answers {x : Exchange Store} (answers : x.before.Answers x.effect x.answer x.after)
    (dead : row.isLive = false) (hbefore : x.before.Keyed ∧ row ∈ x.before.users) :
    x.after.Keyed ∧ row ∈ x.after.users := by
  obtain ⟨keyed, hrow⟩ := hbefore
  refine ⟨answers.keyed keyed, ?_⟩
  rcases answers.cases with hsame | hwrites
  · rwa [hsame]
  · exact hwrites.mem_of_dead keyed hrow dead

/-- A marked row is still there, as it was, at the end of a run. -/
theorem dead_of_run (run : (service h).Run a T c) (keyed : a.shared.Keyed) (hrow : row ∈ a.shared.users)
    (dead : row.isLive = false) : c.shared.Keyed ∧ row ∈ c.shared.users :=
  run.invariant (P := fun s => s.Keyed ∧ row ∈ s.users) ⟨keyed, hrow⟩ fun _ hx =>
    dead_of_answers hx dead

/-- So it is in front of each exchange. -/
theorem dead_of_mem (run : (service h).Run a T c) (keyed : a.shared.Keyed) (hrow : row ∈ a.shared.users)
    (dead : row.isLive = false) {i : Nat} {x : Exchange Store} (hx : (i, x) ∈ T) :
    x.before.Keyed ∧ row ∈ x.before.users :=
  (run.invariant_of_mem (P := fun s => s.Keyed ∧ row ∈ s.users) ⟨keyed, hrow⟩
    (fun _ hx => dead_of_answers hx dead) hx).1

end Run

namespace Keyed

/-- The key of a marked row is not the key of a live one. -/
theorem id_ne_of_dead (keyed : s.Keyed) (hrow : row ∈ s.users) (dead : row.isLive = false)
    (hu : u ∈ s.users) (live : u.isLive = true) : u.id ≠ row.id := by
  intro hid
  rw [List.inj_on_of_nodup_map keyed.nodup_users hu hrow hid, dead] at live
  cases live

/-- No live user has the key of a marked row. -/
theorem liveUser?_of_dead (keyed : s.Keyed) (hrow : row ∈ s.users) (dead : row.isLive = false) :
    s.liveUser? row.id = none := by
  rw [Option.eq_none_iff_forall_ne_some]
  intro u hu
  obtain ⟨hmem, hid, live⟩ := (liveUser?_eq_some keyed.nodup_users).1 hu
  exact keyed.id_ne_of_dead hrow dead hmem live hid

end Keyed

/-- A record whose key no live row has cannot be saved. Whether its address is in use counts first. -/
theorem save_of_gone (key : u.id ≠ 0) (gone : s.liveUser? u.id = none) :
    s.callUsers (.save u) = (.error (if s.emailTaken u.email u.id then emailViolation (.save u)
      else .notFound (UserCall.save u).context), s) := by
  simp only [callUsers, if_neg key, saveUser, gone]
  split <;> rfl

/-- **Nothing can be saved under the key of a marked row.** -/
theorem save_of_dead (keyed : s.Keyed) (hrow : row ∈ s.users) (dead : row.isLive = false)
    (hid : u.id = row.id) :
    s.callUsers (.save u) = (.error (emailViolation (.save u)), s) ∨
      s.callUsers (.save u) = (.error (.notFound (UserCall.save u).context), s) := by
  have key : u.id ≠ 0 := by
    rw [hid]
    exact Int.ne_of_gt (keyed.handed_of_mem hrow).1
  have hnone : s.liveUser? u.id = none := by
    rw [hid]
    exact keyed.liveUser?_of_dead hrow dead
  rw [save_of_gone key hnone]
  split
  · exact .inl rfl
  · exact .inr rfl

end Store

/-! ### Lookups -/

/-- The exchange is a lookup that has found a user. -/
inductive Exchange.Finds (v : User) : Exchange Store → Prop where
  | byKey (id : Id) (before after : Store) :
      Finds v ⟨.users (.getById id), .ok (some v), before, after⟩
  | byEmail (email : String) (before after : Store) :
      Finds v ⟨.users (.getByEmail email), .ok (some v), before, after⟩

/-- **What a lookup finds is live.** -/
theorem Store.liveRow_of_finds {x : Exchange Store} {v : User} (finds : x.Finds v)
    (answers : x.before.Answers x.effect x.answer x.after) :
    ∃ row ∈ x.before.users, row.isLive = true ∧ v = row.refreshPasswordSet := by
  cases finds with
  | byKey id before after =>
    obtain ⟨hfound, -⟩ := Prod.mk.inj answers.callUsers_of_ok
    obtain ⟨row, hrow, rfl⟩ := Option.map_eq_some_iff.1 (Except.ok.inj hfound)
    exact ⟨row, List.mem_of_find?_eq_some hrow, (isLiveUser_iff.1 (List.find?_some hrow)).2, rfl⟩
  | byEmail email before after =>
    obtain ⟨hfound, -⟩ := Prod.mk.inj answers.callUsers_of_ok
    obtain ⟨row, hrow, rfl⟩ := Option.map_eq_some_iff.1 (Except.ok.inj hfound)
    have hlive := List.find?_some hrow
    rw [Bool.and_eq_true] at hlive
    exact ⟨row, List.mem_of_find?_eq_some hrow, hlive.2, rfl⟩

end Turnstile
