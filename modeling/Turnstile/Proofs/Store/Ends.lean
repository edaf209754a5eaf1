import Turnstile.Proofs.Service.Jobs

namespace Turnstile.Store

/-!
# How rows end

Rows are never removed, and a row of the sessions never changes but for its mark.

* `Writes.session_cases`: a change leaves a session's row as it was, unless it is its deletion.
* `Writes.user_cases`: a live user stays live, unless the change is its deletion or replaces it by a record
  that is marked as deleted.
* `EndsSession` and `EndsUser` say of an exchange that it ends a live row.
* `session_of_answers` and `liveUser_of_answers` follow a row through one exchange, `session_of_run` and
  `liveUser_of_run` through a run.
* `not_endsSession_of_unhanded` and `unhanded_of_inserted`: a session whose key has not been handed out
  is not yet ended, and one that is inserted in a run had its key handed out in it.
-/

variable {s s' : Store} {e : Effect}

/-! ### One change -/

/-- **A session's row under a change**: it stays as it was, or the change is its deletion. -/
theorem Writes.session_cases (h : s.Writes e s') (keyed : s.Keyed) {x : Session}
    (hx : x ∈ s.sessions) :
    x ∈ s'.sessions ∨
      (∃ y, e = .sessions (.delete y) ∧ y.id = x.id) ∧ x.isLive = true ∧
        s.markedSession x ∈ s'.sessions := by
  cases h with
  | insertSession y fresh => exact .inl (List.mem_append_left _ hx)
  | markSession y row live =>
    have hmem := changed_mem (keyed.pairwise_isLiveSession y.id) s.markedSession hx
    by_cases hlive : isLiveSession y.id x = true
    · rw [if_pos hlive] at hmem
      rw [isLiveSession_iff] at hlive
      exact .inr ⟨⟨y, rfl, hlive.1.symm⟩, hlive.2, hmem⟩
    · rw [if_neg hlive] at hmem
      exact .inl hmem
  | _ => exact .inl hx

/-- **A live user under a change**: it stays live, or the change is its deletion, or it is replaced by a
    record marked as deleted. -/
theorem Writes.user_cases (h : s.Writes e s') (keyed : s.Keyed) {u : User} (hu : u ∈ s.users)
    (live : u.isLive = true) :
    (∃ u' ∈ s'.users, u'.id = u.id ∧ u'.isLive = true) ∨
      (∃ v, e = .users (.delete v) ∧ v.id = u.id) ∨
      ∃ v, e = .users (.save v) ∧ v.id = u.id ∧ v.isLive = false := by
  cases h with
  | insertUser call v hcall free => exact .inl ⟨u, List.mem_append_left _ hu, rfl, live⟩
  | replaceUser v row key free hrow =>
    -- the record decides whether the row is live afterwards
    have hmem := changed_mem (keyed.pairwise_isLiveUser v.id) (fun _ => keptUser (changedUser row v)) hu
    by_cases hid : isLiveUser v.id u = true
    · rw [if_pos hid] at hmem
      rw [isLiveUser_iff] at hid
      cases hlive : v.isLive with
      | true => exact .inl ⟨_, hmem, hid.1.symm, hlive⟩
      | false => exact .inr (.inr ⟨v, rfl, hid.1.symm, hlive⟩)
    · rw [if_neg hid] at hmem
      exact .inl ⟨u, hmem, rfl, live⟩
  | markUser v row hrow =>
    have hmem := changed_mem (keyed.pairwise_isLiveUser v.id) s.markedUser hu
    by_cases hid : isLiveUser v.id u = true
    · rw [isLiveUser_iff] at hid
      exact .inr (.inl ⟨v, rfl, hid.1.symm⟩)
    · rw [if_neg hid] at hmem
      exact .inl ⟨u, hmem, rfl, live⟩
  | _ => exact .inl ⟨u, hu, rfl, live⟩

/-- Keys of users are handed out in order and never given back. -/
theorem Writes.lastUser_le (h : s.Writes e s') : s.lastUser ≤ s'.lastUser := by
  cases h with
  | insertUser call u hcall free => exact Nat.le_succ _
  | _ => exact Nat.le_refl _

/-- So are keys of sessions. -/
theorem Writes.lastSession_le (h : s.Writes e s') : s.lastSession ≤ s'.lastSession := by
  cases h with
  | insertSession x fresh => exact Nat.le_succ _
  | _ => exact Nat.le_refl _

/-- A row with another key is not the live row with this one. -/
theorem isLiveUser_of_ne {id : Id} {u : User} (h : u.id ≠ id) : isLiveUser id u = false := by
  rw [isLiveUser, beq_eq_false_iff_ne.2 h, Bool.false_and]

/-- **A key whose user is not live** never becomes one of a live user again, once it has been handed out. -/
theorem Writes.liveUser?_eq_none (h : s.Writes e s') {id : Id} (handed : id ≤ s.lastUser)
    (hnone : s.liveUser? id = none) : s'.liveUser? id = none := by
  have hdead : ∀ u ∈ s.users, ¬ isLiveUser id u = true := List.find?_eq_none.1 hnone
  have hother (u : User) (hid : u.id ≠ id) : ¬ isLiveUser id u = true := by
    rw [isLiveUser_of_ne hid]
    exact Bool.false_ne_true
  rw [liveUser?, List.find?_eq_none]
  intro u hu
  -- a new row has a new key, a changed one was live before, a marked one is not live
  cases h with
  | insertUser call v hcall free =>
    rcases List.mem_append.1 hu with hu | hu
    · exact hdead u hu
    · rw [List.mem_singleton.1 hu]
      refine hother _ fun hid => ?_
      have hnew : (s.lastUser : Int) + 1 ≤ s.lastUser := Int.le_trans (Int.le_of_eq hid) handed
      omega
  | replaceUser v row key free live =>
    rcases mem_changeFirst hu with hu | ⟨w, hw, hlive, rfl⟩
    · exact hdead u hu
    · refine hother _ fun hid => ?_
      -- the row that was replaced was live and had this key
      obtain rfl : v.id = id := hid
      exact hdead w hw hlive
  | markUser v row live =>
    rcases mem_changeFirst hu with hu | ⟨w, -, -, rfl⟩
    · exact hdead u hu
    · rw [isLiveUser_iff]
      exact fun hmarked => Bool.false_ne_true hmarked.2
  | _ => exact hdead u hu

/-! ### One exchange -/

/-- The exchange ends the live session with a key. -/
def EndsSession (id : Id) (x : Exchange Store) : Prop :=
  (x.before.liveSession? id).isSome = true ∧ x.after.liveSession? id = none

/-- The exchange ends the live user with a key. -/
def EndsUser (id : Id) (x : Exchange Store) : Prop :=
  (x.before.liveUser? id).isSome = true ∧ x.after.liveUser? id = none

variable {x : Exchange Store} {id : Id}

/-- What has changed nothing has ended nothing. -/
theorem not_endsSession_of_same (h : x.after = x.before) : ¬ EndsSession id x := by
  rintro ⟨hsome, hnone⟩
  rw [← h, hnone] at hsome
  cases hsome

theorem not_endsUser_of_same (h : x.after = x.before) : ¬ EndsUser id x := by
  rintro ⟨hsome, hnone⟩
  rw [← h, hnone] at hsome
  cases hsome

/-- Only a deletion ends a session. -/
theorem effect_of_endsSession (answers : x.before.Answers x.effect x.answer x.after)
    (keyed : x.before.Keyed) (ends : EndsSession id x) :
    ∃ y, x.effect = .sessions (.delete y) ∧ y.id = id := by
  rcases answers.cases with hsame | hwrites
  · exact absurd ends (not_endsSession_of_same hsame)
  · obtain ⟨hsome, hnone⟩ := ends
    obtain ⟨row, hrow⟩ := Option.isSome_iff_exists.1 hsome
    obtain ⟨hmem, rfl, hlive⟩ := (liveSession?_eq_some keyed.nodup_sessions).1 hrow
    rcases hwrites.session_cases keyed hmem with hstays | ⟨hdelete, -, -⟩
    · rw [(liveSession?_eq_some (hwrites.keyed keyed).nodup_sessions).2 ⟨hstays, rfl, hlive⟩] at hnone
      cases hnone
    · exact hdelete

/-- Only a deletion ends a user, or being replaced by a record marked as deleted. -/
theorem effect_of_endsUser (answers : x.before.Answers x.effect x.answer x.after)
    (keyed : x.before.Keyed) (ends : EndsUser id x) :
    (∃ v, x.effect = .users (.delete v) ∧ v.id = id) ∨
      ∃ v, x.effect = .users (.save v) ∧ v.id = id ∧ v.isLive = false := by
  rcases answers.cases with hsame | hwrites
  · exact absurd ends (not_endsUser_of_same hsame)
  · obtain ⟨hsome, hnone⟩ := ends
    obtain ⟨row, hrow⟩ := Option.isSome_iff_exists.1 hsome
    obtain ⟨hmem, rfl, hlive⟩ := (liveUser?_eq_some keyed.nodup_users).1 hrow
    rcases hwrites.user_cases keyed hmem hlive with ⟨u', hu', hid, hlive'⟩ | hends
    · rw [(liveUser?_eq_some (hwrites.keyed keyed).nodup_users).2 ⟨hu', hid, hlive'⟩] at hnone
      cases hnone
    · exact hends

/-- **A key under an exchange**: once handed out, it is one of a live user exactly if it was and the exchange
    does not end it. -/
theorem liveUser_of_answers (answers : x.before.Answers x.effect x.answer x.after)
    (handed : id ≤ x.before.lastUser) :
    (x.after.liveUser? id).isSome = true ↔
      (x.before.liveUser? id).isSome = true ∧ ¬ EndsUser id x := by
  have hstays (hnone : x.before.liveUser? id = none) : x.after.liveUser? id = none := by
    rcases answers.cases with hsame | hwrites
    · rwa [hsame]
    · exact hwrites.liveUser?_eq_none handed hnone
  unfold EndsUser
  cases hbefore : x.before.liveUser? id with
  | none => simp [hstays hbefore]
  | some row => cases x.after.liveUser? id <;> simp

/-- **A session's row under an exchange**: it is still there, unchanged but for its mark, and it is live
    exactly if it was and the exchange does not end it. -/
theorem session_of_answers (answers : x.before.Answers x.effect x.answer x.after) (keyed : x.before.Keyed)
    {row : Session} (hrow : row ∈ x.before.sessions) :
    ∃ row' ∈ x.after.sessions, row' = { row with deletedAt := row'.deletedAt } ∧
      (row'.isLive = true ↔ row.isLive = true ∧ ¬ EndsSession row.id x) := by
  have hkeyed' := answers.keyed keyed
  -- a row that stays as it is has not been ended
  have hstays (hmem : row ∈ x.after.sessions) : ∃ row' ∈ x.after.sessions,
      row' = { row with deletedAt := row'.deletedAt } ∧
        (row'.isLive = true ↔ row.isLive = true ∧ ¬ EndsSession row.id x) := by
    refine ⟨row, hmem, rfl, ?_⟩
    rw [iff_self_and]
    rintro hlive ⟨-, hnone⟩
    rw [(liveSession?_eq_some hkeyed'.nodup_sessions).2 ⟨hmem, rfl, hlive⟩] at hnone
    cases hnone
  rcases answers.cases with hsame | hwrites
  · exact hstays (hsame ▸ hrow)
  · rcases hwrites.session_cases keyed hrow with hmem | ⟨-, hwas, hmarked⟩
    · exact hstays hmem
    · -- the row that is marked has been ended: no other row has its key
      have hdead : (x.before.markedSession row).isLive = false := rfl
      have hbefore : x.before.liveSession? row.id = some row :=
        (liveSession?_eq_some keyed.nodup_sessions).2 ⟨hrow, rfl, hwas⟩
      have hafter : x.after.liveSession? row.id = none := by
        rw [Option.eq_none_iff_forall_ne_some]
        intro y hy
        obtain ⟨hy, hid, hlive⟩ := (liveSession?_eq_some hkeyed'.nodup_sessions).1 hy
        rw [eq_of_id_eq hkeyed'.nodup_sessions hy hmarked hid, hdead] at hlive
        cases hlive
      have hends : EndsSession row.id x := ⟨by rw [hbefore]; rfl, hafter⟩
      refine ⟨_, hmarked, rfl, ?_⟩
      rw [hdead]
      simp [hends]

/-! ### A run -/

/-- Of a run with one more exchange, something holds throughout if it does for the run and the exchange. -/
theorem forall_mem_snoc {T : Trace Store} {i : Nat} {x : Exchange Store} {P : Exchange Store → Prop} :
    (∀ j y, (j, y) ∈ T ++ [(i, x)] → P y) ↔ (∀ j y, (j, y) ∈ T → P y) ∧ P x := by
  simp only [List.mem_append, List.mem_singleton, Prod.mk.injEq]
  constructor
  · exact fun hall => ⟨fun j y hy => hall j y (.inl hy), hall i x (.inr ⟨rfl, rfl⟩)⟩
  · rintro ⟨hall, hx⟩ j y (hy | ⟨rfl, rfl⟩)
    · exact hall j y hy
    · exact hx

section Run

variable {h : Credential.Hasher} {a c : Crowd Store (Request × Job) (Except ServiceFailure Value)}
  {T : Trace Store} {row : Session}

/-- Keys that have been handed out stay so. -/
theorem handed_of_run (run : (service h).Run a T c) {id : Id} (handed : id ≤ a.shared.lastUser) :
    id ≤ c.shared.lastUser := by
  refine run.invariant (P := fun s => id ≤ s.lastUser) handed fun y hy hle => ?_
  rcases hy.cases with hsame | hwrites
  · rwa [hsame]
  · exact Int.le_trans hle (Int.ofNat_le.2 hwrites.lastUser_le)

/-- **A user through a run.** One whose key has been handed out is live exactly if it was and nothing has
    ended it. -/
theorem liveUser_of_run (run : (service h).Run a T c) {id : Id} (handed : id ≤ a.shared.lastUser) :
    (c.shared.liveUser? id).isSome = true ↔
      (a.shared.liveUser? id).isSome = true ∧ ∀ j x, (j, x) ∈ T → ¬ EndsUser id x := by
  induction run with
  | start => simp
  | launch _ _ ih => exact ih
  | @step T c i job x next run task now answers ih =>
    have hhanded : id ≤ x.before.lastUser := by
      rw [now]
      exact handed_of_run run handed
    show (x.after.liveUser? id).isSome = true ↔ _
    rw [liveUser_of_answers answers hhanded, now, ih, and_assoc, forall_mem_snoc]

/-- **A session's row through a run.** It is still there, unchanged but for its mark; and it is live
    exactly if it was and nothing has ended it. -/
theorem session_of_run (run : (service h).Run a T c) (keyed : a.shared.Keyed)
    (hrow : row ∈ a.shared.sessions) :
    ∃ row' ∈ c.shared.sessions, row' = { row with deletedAt := row'.deletedAt } ∧
      (row'.isLive = true ↔ row.isLive = true ∧ ∀ j x, (j, x) ∈ T → ¬ EndsSession row.id x) := by
  induction run with
  | start =>
    refine ⟨row, hrow, rfl, ?_⟩
    simp
  | launch _ _ ih => exact ih
  | @step T c i job x next run task now answers ih =>
    obtain ⟨row', hmem, hsame, hlive⟩ := ih
    have hkeyed : x.before.Keyed := now ▸ keyed.of_run run
    rw [← now] at hmem
    obtain ⟨row'', hmem', hsame', hlive'⟩ := session_of_answers answers hkeyed hmem
    have hid : row'.id = row.id := by rw [hsame]
    have hthrough : row'' = { row with deletedAt := row''.deletedAt } := by
      rw [hsame', hsame]
    refine ⟨row'', hmem', hthrough, ?_⟩
    rw [hlive', hlive, hid, and_assoc, forall_mem_snoc]

/-- What has been ended had a key that was handed out before. -/
theorem not_endsSession_of_unhanded (run : (service h).Run .nobody T c) {id : Id}
    (unhanded : c.shared.lastSession < id) : ∀ j x, (j, x) ∈ T → ¬ EndsSession id x := by
  rintro j x hx ⟨hsome, -⟩
  obtain ⟨row, hrow⟩ := Option.isSome_iff_exists.1 hsome
  have hkeyed := keyed_of_mem run hx
  obtain ⟨hmem, hkey, -⟩ := (liveSession?_eq_some hkeyed.nodup_sessions).1 hrow
  -- the row is still there at the end, with the same key
  obtain ⟨T₁, T₂, b, rfl, -, hshared, run₂⟩ := run.cut hx
  rw [← hshared] at hkeyed hmem
  obtain ⟨row', hmem', hsame, -⟩ := session_of_run run₂ hkeyed hmem
  have hhanded := ((keyed_of_run run).handed_of_mem_sessions hmem').2
  rw [show row'.id = id by rw [← hkey, hsame]] at hhanded
  exact absurd hhanded (Int.not_le.2 unhanded)

/-- The key of a session that is inserted in a run has not been handed out where the run begins. -/
theorem unhanded_of_inserted (run : (service h).Run a T c) {k : Nat} {x y : Session} {before after : Store}
    (inserted : (k, ⟨.sessions (.create y), .ok x, before, after⟩) ∈ T) : a.shared.lastSession < x.id := by
  obtain ⟨T₁, T₂, b, -, run₁, (hshared : b.shared = before), -⟩ := run.cut inserted
  have hle : a.shared.lastSession ≤ before.lastSession := by
    rw [← hshared]
    refine run₁.invariant (P := fun s => a.shared.lastSession ≤ s.lastSession) (Nat.le_refl _) ?_
    intro y answers hle
    rcases Answers.cases answers with hsame | hwrites
    · rwa [hsame]
    · exact Nat.le_trans hle hwrites.lastSession_le
  obtain ⟨hx, -⟩ := create_session_ok (run.answers_of_mem inserted).callSessions_of_ok
  have hid : (before.lastSession : Int) + 1 = x.id := by rw [hx]; rfl
  show (a.shared.lastSession : Int) < x.id
  omega

/-- **What is deleted stays deleted**: a session that has been deleted in the course of a run is not live in
    the end. -/
theorem liveSession?_of_deleted (run : (service h).Run a T c) (keyed : a.shared.Keyed)
    (hrow : row ∈ a.shared.sessions) {j : Nat} {y z : Session} {before after : Store}
    (deleted : (j, ⟨.sessions (.delete y), .ok z, before, after⟩) ∈ T) (hid : y.id = row.id) :
    c.shared.liveSession? row.id = none := by
  rw [Option.eq_none_iff_forall_ne_some]
  intro w hw
  have keyed' := keyed.of_run run
  obtain ⟨hmem, hwid, hwlive⟩ := (liveSession?_eq_some keyed'.nodup_sessions).1 hw
  -- if it were live, nothing would have ended it, and it would have been live in front of the deletion
  obtain ⟨row', hrow', hsame, hlive⟩ := session_of_run run keyed hrow
  obtain rfl := eq_of_id_eq keyed'.nodup_sessions hmem hrow' (hwid.trans (by rw [hsame]))
  obtain ⟨hwas, hnone⟩ := hlive.1 hwlive
  obtain ⟨T₁, T₂, b, rfl, run₁, (hshared : b.shared = before), -⟩ := run.cut deleted
  obtain ⟨row₁, hrow₁, hsame₁, hlive₁⟩ := session_of_run run₁ keyed hrow
  have hlive₁ := hlive₁.2 ⟨hwas, fun k x hx => hnone k x (List.mem_append_left _ hx)⟩
  have keyed₁ : before.Keyed := hshared ▸ keyed.of_run run₁
  have hbefore : before.liveSession? row.id = some row₁ := by
    rw [liveSession?_eq_some keyed₁.nodup_sessions, ← hshared]
    exact ⟨hrow₁, by rw [hsame₁], hlive₁⟩
  have answers := (run.answers_of_mem deleted).callSessions_of_ok
  refine hnone j _ deleted ⟨?_, ?_⟩
  · rw [hbefore]
    rfl
  · exact hid ▸ delete_session_ok answers keyed₁

end Run

end Turnstile.Store
