import Mathlib.Algebra.Order.BigOperators.Group.Finset
import Mathlib.Combinatorics.Enumerative.DoubleCounting
import Turnstile.Proofs.Accounts.PasswordChange
import Turnstile.Proofs.Sessions.CredentialText
import Turnstile.Proofs.Sessions.SignOutReach

namespace Turnstile

open Credential (Hasher)
open Service (leads_bind_ok leads_map leads_perform leads_pure leads_sessions leads_throw)

/-!
# Sign-outs at the same time

Several sign-outs of one user that run at once. Listing the running sessions and deleting them are
separate steps, and nobody is told that a session has been deleted before; so a session is counted by
each sign-out that has come to delete it.

* `deletions` lists the sessions that a sign-out has deleted, and `ended` those that are live in one
  store and no longer in another one.
* `SignOuts` is the situation, and `Tally` what the counts come to. `signOuts_tally` proves it; whoever is
  behind another one deletes no session again (`SignOuts.disjoint`).
* `CountsEachOnce` is what one might expect instead, and `not_countsEachOnce` refutes it.
-/

/-! ### One sign-out -/

/-- The key of the session that is to be deleted. -/
def Effect.deletion? : Effect → Option Id
  | .sessions (.delete y) => some y.id
  | _ => none

theorem Effect.deletion?_eq_some {e : Effect} {id : Id} :
    e.deletion? = some id ↔ ∃ y, e = .sessions (.delete y) ∧ y.id = id := by
  constructor
  · intro h
    cases e with
    | sessions call =>
      cases call with
      | delete y => exact ⟨y, rfl, Option.some.inj h⟩
      | _ => cases h
    | _ => cases h
  · rintro ⟨y, rfl, rfl⟩
    rfl

/-- The keys of the sessions that have been deleted, one after the other. -/
def deletions (xs : List (Exchange Store)) : List Id := (xs.map (·.effect)).filterMap Effect.deletion?

theorem mem_deletions {xs : List (Exchange Store)} {id : Id} :
    id ∈ deletions xs ↔ ∃ x ∈ xs, ∃ y, x.effect = .sessions (.delete y) ∧ y.id = id := by
  simp only [deletions, List.mem_filterMap, List.mem_map, exists_exists_and_eq_and, Effect.deletion?_eq_some]

/-- What a sign-out with a count has exchanged: it has listed the running sessions of the user, and has
    deleted these and no others, but for the one to keep. Each of its deletions has succeeded, and has
    been counted. -/
structure Sweep (userId : Id) (keep : Option Id) (xs : List (Exchange Store)) (count : Nat) : Prop where
  listed : ∃ t found before after,
    ⟨.sessions (.listActive userId t), .ok found, before, after⟩ ∈ xs ∧
      deletions xs = (found.filter fun y => some y.id ≠ keep).map (·.id)
  answered : ∀ x ∈ xs, ∀ y, x.effect = .sessions (.delete y) →
    ∃ z before after, x = ⟨.sessions (.delete y), .ok z, before, after⟩
  counted : count = (deletions xs).length

section Sweep

variable {xs : List (Exchange Store)} {context : String} {n : Nat} {userId : Id}

/-- Listing and deleting is such a sweep. -/
theorem Accounts.sweep_of_leads {keep : Option Id}
    (h : (signOut context userId keep).run.Leads xs (.done (.ok n))) : Sweep userId keep xs n := by
  obtain ⟨t, found, b, a, b', a', zs, hloop, rfl⟩ := signOut_leads_loop h
  obtain ⟨heffects, hall, rfl⟩ := deleteEach_leads hloop
  have hdeletions : deletions zs = (found.filter fun y => some y.id ≠ keep).map (·.id) := by
    rw [deletions, heffects, List.filterMap_map]
    exact congrFun List.filterMap_eq_map _
  have hlength : zs.length = (deletions zs).length := by
    simpa [hdeletions] using congrArg List.length heffects
  refine ⟨⟨t, found, b', a', List.mem_cons_of_mem _ List.mem_cons_self, hdeletions⟩, ?_, hlength⟩
  intro x hx y hdelete
  -- neither the clock nor the list is a deletion
  obtain rfl | rfl | hx : _ ∨ _ ∨ x ∈ zs := by simpa only [List.mem_cons] using hx
  · cases hdelete
  · cases hdelete
  · obtain ⟨y', z, before, after, rfl⟩ := hall x hx
    cases hdelete
    exact ⟨z, before, after, rfl⟩

/-- An entry in the log behind a sweep does not matter. -/
theorem Sweep.snoc {keep : Option Id} {x : Exchange Store} (sweep : Sweep userId keep xs n)
    (hx : x.effect.deletion? = none) : Sweep userId keep (xs ++ [x]) n := by
  have hsame : deletions (xs ++ [x]) = deletions xs := by
    rw [deletions, List.map_append, List.filterMap_append, List.map_singleton, List.filterMap_cons_none hx,
      List.filterMap_nil, List.append_nil, deletions]
  obtain ⟨t, found, before, after, hmem, hdeletions⟩ := sweep.listed
  refine ⟨⟨t, found, before, after, List.mem_append_left _ hmem, hsame.trans hdeletions⟩, ?_, ?_⟩
  · intro z hz y hdelete
    rcases List.mem_append.1 hz with hz | hz
    · exact sweep.answered z hz y hdelete
    · rw [← List.mem_singleton.1 hz, hdelete] at hx
      cases hx
  · rw [hsame]
    exact sweep.counted

/-- **A sign-out that has succeeded** has been such a sweep. -/
theorem Sessions.sweep_of_leads {r : Request} {keep : Option Session}
    (h : (delete r userId keep).run.Leads xs (.done (.ok n))) : Sweep userId (keep.map (·.id)) xs n := by
  unfold delete at h
  by_cases huser : userId = 0
  · simp only [if_pos huser] at h
    obtain ⟨_, _, _, -, hthrow, -⟩ := leads_bind_ok.1 h
    exact absurd hthrow leads_throw
  · simp only [if_neg huser] at h
    obtain ⟨_, _, m, rfl, hsignOut, hrest⟩ := leads_bind_ok.1 h
    obtain ⟨_, _, _, rfl, hlog, hend⟩ := leads_bind_ok.1 hrest
    obtain ⟨b, a, rfl⟩ := leads_perform.1 hlog
    obtain ⟨rfl, rfl⟩ := leads_pure.1 hend
    rw [List.append_nil]
    exact (Accounts.sweep_of_leads hsignOut).snoc rfl

/-- What a sign-out of a run has been through. -/
theorem Sessions.sweep_of_finished {h : Hasher} {s : Store} {T : Trace Store}
    {c : Crowd Store (Request × Job) (Except ServiceFailure Value)} {i : Nat} {r : Request}
    {keep : Option Session} (run : (service h).Run ⟨s, []⟩ T c)
    (hi : c.Finished i (r, .signOut userId keep) (.ok (.count n))) :
    Sweep userId (keep.map (·.id)) (T.own i) n := by
  have hleads : (delete r userId keep >>= fun count => pure (Value.count count) :
      Service Value).run.Leads (T.own i) (.done (.ok (.count n))) := run.leads hi
  obtain ⟨result, hdelete, hvalue⟩ := leads_map.1 hleads
  cases result <;> cases hvalue
  exact sweep_of_leads hdelete

end Sweep

/-! ### Sign-outs and nothing else -/

/-- The sessions of a user that are live in one store and are not in another one. -/
def ended (userId : Id) (s s' : Store) : List Session :=
  s.sessions.filter fun x => x.userId == userId && x.isLive && (s'.liveSession? x.id).isNone

theorem mem_ended {userId : Id} {s s' : Store} {x : Session} : x ∈ ended userId s s' ↔
    x ∈ s.sessions ∧ (x.userId = userId ∧ x.isLive = true) ∧ s'.liveSession? x.id = none := by
  rw [ended, List.mem_filter, Bool.and_eq_true, Bool.and_eq_true, beq_iff_eq, Option.isNone_iff_eq_none]

/-- The keys of these sessions. -/
def endedKeys (userId : Id) (s s' : Store) : Finset Id := ((ended userId s s').map (·.id)).toFinset

theorem mem_endedKeys {userId : Id} {s s' : Store} {id : Id} : id ∈ endedKeys userId s s' ↔
    ∃ x ∈ s.sessions, x.id = id ∧ (x.userId = userId ∧ x.isLive = true) ∧ s'.liveSession? id = none := by
  simp only [endedKeys, List.mem_toFinset, List.mem_map, mem_ended]
  constructor
  · rintro ⟨x, ⟨hx, hlive, hnone⟩, rfl⟩
    exact ⟨x, hx, rfl, hlive, hnone⟩
  · rintro ⟨x, hx, rfl, hlive, hnone⟩
    exact ⟨x, ⟨hx, hlive, hnone⟩, rfl⟩

/-- There are as many as there are sessions. -/
theorem card_endedKeys {userId : Id} {s s' : Store} (keyed : s.Keyed) :
    (endedKeys userId s s').card = (ended userId s s').length := by
  have hnodup : ((ended userId s s').map (·.id)).Nodup :=
    keyed.nodup_sessions.sublist (List.filter_sublist.map _)
  rw [endedKeys, List.toFinset_card_of_nodup hnodup, List.length_map]

/-- The task is a sign-out of the user that has succeeded with a count. -/
def Counted (userId : Id) (task : Task (Request × Job) (Except ServiceFailure Value)) (count : Nat) : Prop :=
  ∃ r keep, task = ⟨(r, .signOut userId keep), .done (.ok (.count count))⟩

/-- In a store that an earlier run has led to, one user is signed out by several callers at once, and nothing
    else is done. All of them succeed, with these counts. -/
structure SignOuts (h : Hasher) (userId : Id) (s : Store) (T : Trace Store)
    (c : Crowd Store (Request × Job) (Except ServiceFailure Value)) (counts : List Nat) : Prop where
  reached : ∃ T₀ b, (service h).Run .nobody T₀ b ∧ b.shared = s
  run : (service h).Run ⟨s, []⟩ T c
  counted : List.Forall₂ (Counted userId) c.tasks counts

/-- All that one task has exchanged comes before all that another one has. -/
def Precedes (T : Trace Store) (i j : Nat) : Prop :=
  ∃ A B : Trace Store, T = A ++ B ∧ A.own j = [] ∧ B.own i = []

section SignOuts

variable {h : Hasher} {userId : Id} {s : Store} {T : Trace Store} {i j : Nat} {id : Id}
  {a c : Crowd Store (Request × Job) (Except ServiceFailure Value)} {counts : List Nat}

/-- Where only plain questions are asked, no session is inserted. -/
theorem lastSession_of_run (run : (service h).Run a T c) (plain : ∀ i x, (i, x) ∈ T → x.effect.Plain) :
    c.shared.lastSession = a.shared.lastSession := by
  refine run.along (P := fun s => s.lastSession = a.shared.lastSession) rfl fun i x hx answers hbefore => ?_
  rcases Store.Answers.cases answers with hsame | hwrites
  · rwa [hsame]
  · have hplain := plain i x hx
    generalize x.effect = e, x.after = s' at hwrites hplain
    cases hwrites with
    | insertSession => exact hplain.elim
    | _ => exact hbefore

/-- So a session that is listed was there from the start, and live. -/
theorem live_of_listed (run : (service h).Run a T c) (keyed : a.shared.Keyed)
    (plain : ∀ i x, (i, x) ∈ T → x.effect.Plain) {t : Instant} {found : List Session} {before after : Store}
    (listed : (j, ⟨.sessions (.listActive userId t), .ok found, before, after⟩) ∈ T) {y : Session}
    (hy : y ∈ found) :
    ∃ row ∈ a.shared.sessions, row.id = y.id ∧ row.userId = userId ∧ row.isLive = true := by
  obtain ⟨A, B, b, rfl, run₁, (hshared : b.shared = before), -⟩ := run.cut listed
  have keyed₁ := keyed.of_run run₁
  obtain ⟨hmem, huser, live⟩ := Store.listActive_ok (run.answers_of_mem listed).callSessions_of_ok hy
  rw [← hshared] at hmem
  -- the key has been handed out before the run
  have hkey : y.id ∈ a.shared.sessions.map Session.id := by
    have hlast := lastSession_of_run run₁ fun i x hx => plain i x (List.mem_append_left _ hx)
    rw [keyed.sessions, ← hlast, ← keyed₁.sessions]
    exact List.mem_map_of_mem hmem
  obtain ⟨row, hrow, hid⟩ := List.mem_map.1 hkey
  obtain ⟨row', hrow', hsame, hlive⟩ := Store.session_of_run run₁ keyed hrow
  have hid' : row'.id = y.id := by
    rw [hsame]
    exact hid
  obtain rfl := Store.eq_of_id_eq keyed₁.nodup_sessions hrow' hmem hid'
  refine ⟨row, hrow, hid, ?_, (hlive.1 live).1⟩
  rw [← huser, hsame]

namespace SignOuts

theorem keyed (outs : SignOuts h userId s T c counts) : s.Keyed := by
  obtain ⟨T₀, b, run, rfl⟩ := outs.reached
  exact keyed_of_run run

theorem finished (outs : SignOuts h userId s T c counts) (hi : i < counts.length) :
    ∃ r keep, c.Finished i (r, .signOut userId keep) (.ok (.count counts[i])) := by
  have hi' : i < c.tasks.length := outs.counted.length_eq ▸ hi
  obtain ⟨r, keep, htask⟩ := outs.counted.get hi' hi
  exact ⟨r, keep, List.getElem?_eq_some_iff.2 ⟨hi', htask⟩⟩

theorem lt_of_mem (outs : SignOuts h userId s T c counts) {x : Exchange Store} (hx : (i, x) ∈ T) :
    i < counts.length := by
  obtain ⟨_, _, _, _, _, _, _, _, hjob⟩ := outs.run.job_of_mem hx
  rw [← outs.counted.length_eq]
  exact Crowd.lt_length_of_job? hjob

theorem plain (outs : SignOuts h userId s T c counts) (i : Nat) (x : Exchange Store) (hx : (i, x) ∈ T) :
    x.effect.Plain := by
  obtain ⟨r, keep, hi⟩ := outs.finished (outs.lt_of_mem hx)
  have hasks : (Job.program h r (.signOut userId keep)).Asks Effect.Plain :=
    (Sessions.delete_asks (fun _ he => he) userId keep).bind fun _ => Service.asks_pure _
  exact hasks.program.of_leads (outs.run.leads hi) x (Trace.mem_own.2 hx)

/-- What is deleted has been listed by the same sign-out. -/
theorem exists_listed (outs : SignOuts h userId s T c counts) (hid : id ∈ deletions (T.own i)) :
    ∃ t found before after, (i, ⟨.sessions (.listActive userId t), .ok found, before, after⟩) ∈ T ∧
      ∃ y ∈ found, y.id = id := by
  obtain ⟨x, hx, -⟩ := mem_deletions.1 hid
  obtain ⟨r, keep, hi⟩ := outs.finished (outs.lt_of_mem (Trace.mem_own.1 hx))
  obtain ⟨t, found, before, after, hmem, hdeletions⟩ := (Sessions.sweep_of_finished outs.run hi).listed
  rw [hdeletions] at hid
  obtain ⟨y, hy, hyid⟩ := List.mem_map.1 hid
  exact ⟨t, found, before, after, Trace.mem_own.1 hmem, y, List.mem_of_mem_filter hy, hyid⟩

/-- The deletion has succeeded. -/
theorem exists_deleted (outs : SignOuts h userId s T c counts) (hid : id ∈ deletions (T.own i)) :
    ∃ y z before after, (i, ⟨.sessions (.delete y), .ok z, before, after⟩) ∈ T ∧ y.id = id := by
  obtain ⟨x, hx, y, hdelete, hyid⟩ := mem_deletions.1 hid
  obtain ⟨r, keep, hi⟩ := outs.finished (outs.lt_of_mem (Trace.mem_own.1 hx))
  obtain ⟨z, before, after, rfl⟩ := (Sessions.sweep_of_finished outs.run hi).answered x hx y hdelete
  exact ⟨y, z, before, after, Trace.mem_own.1 hx, hyid⟩

/-- **What is deleted** is a session of the user that was live at the start. -/
theorem live_of_deleted (outs : SignOuts h userId s T c counts) (hid : id ∈ deletions (T.own i)) :
    ∃ row ∈ s.sessions, row.id = id ∧ row.userId = userId ∧ row.isLive = true := by
  obtain ⟨t, found, before, after, hlisted, y, hy, rfl⟩ := outs.exists_listed hid
  exact live_of_listed outs.run outs.keyed outs.plain hlisted hy

/-- **A session has been ended** exactly if one of the sign-outs has deleted it. -/
theorem mem_endedKeys_iff (outs : SignOuts h userId s T c counts) :
    id ∈ endedKeys userId s c.shared ↔ ∃ i, id ∈ deletions (T.own i) := by
  rw [mem_endedKeys]
  constructor
  · rintro ⟨row, hrow, rfl, ⟨-, live⟩, hnone⟩
    -- some exchange has ended it, and only a deletion does that
    by_contra never
    obtain ⟨row', hrow', hsame, hlive⟩ := Store.session_of_run outs.run outs.keyed hrow
    have hlive' : row'.isLive = true := hlive.2 ⟨live, fun j x hx ends => never ?_⟩
    · have keyed' : c.shared.Keyed := Store.Keyed.of_run outs.keyed outs.run
      have hfound := (Store.liveSession?_eq_some keyed'.nodup_sessions).2 ⟨hrow', rfl, hlive'⟩
      rw [show row'.id = row.id by rw [hsame], hnone] at hfound
      cases hfound
    · have hkeyed := Store.Keyed.of_mem outs.keyed outs.run hx
      obtain ⟨y, hdelete, hyid⟩ := Store.effect_of_endsSession (outs.run.answers_of_mem hx) hkeyed ends
      exact ⟨j, mem_deletions.2 ⟨x, Trace.mem_own.2 hx, y, hdelete, hyid⟩⟩
  · rintro ⟨i, hid⟩
    obtain ⟨row, hrow, rfl, huser, live⟩ := outs.live_of_deleted hid
    obtain ⟨y, z, before, after, hmem, hyid⟩ := outs.exists_deleted hid
    exact ⟨row, hrow, rfl, ⟨huser, live⟩,
      Store.liveSession?_of_deleted outs.run outs.keyed hrow hmem hyid⟩

/-- **Whoever is behind another one** deletes no session again. -/
theorem disjoint (outs : SignOuts h userId s T c counts) (precedes : Precedes T i j)
    (hi : id ∈ deletions (T.own i)) : id ∉ deletions (T.own j) := by
  intro hj
  obtain ⟨A, B, rfl, hA, hB⟩ := precedes
  obtain ⟨b, run₁, run₂⟩ := outs.run.parts rfl
  have keyed₁ : b.shared.Keyed := Store.Keyed.of_run outs.keyed run₁
  -- behind the first sign-out the session is not live
  obtain ⟨row, hrow, rfl, -⟩ := outs.live_of_deleted hi
  have hnone : b.shared.liveSession? row.id = none := by
    obtain ⟨y, z, before, after, hmem, hyid⟩ := outs.exists_deleted hi
    rw [← Trace.mem_own, Trace.own_append, hB, List.append_nil, Trace.mem_own] at hmem
    exact Store.liveSession?_of_deleted run₁ outs.keyed hrow hmem hyid
  -- but the second one has listed it
  obtain ⟨t, found, before, after, hlisted, y, hy, hyid⟩ := outs.exists_listed hj
  rw [← Trace.mem_own, Trace.own_append, hA, List.nil_append, Trace.mem_own] at hlisted
  obtain ⟨row', hrow', hid', -, live⟩ := live_of_listed run₂ keyed₁
    (fun k x hx => outs.plain k x (List.mem_append_right _ hx)) hlisted hy
  rw [(Store.liveSession?_eq_some keyed₁.nodup_sessions).2 ⟨hrow', hid'.trans hyid, live⟩] at hnone
  cases hnone

/-- No sign-out deletes a session twice. -/
theorem nodup_deletions (outs : SignOuts h userId s T c counts) (i : Nat) :
    (deletions (T.own i)).Nodup := by
  by_cases hi : i < counts.length
  · obtain ⟨r, keep, hi⟩ := outs.finished hi
    obtain ⟨t, found, before, after, hmem, hdeletions⟩ := (Sessions.sweep_of_finished outs.run hi).listed
    have hmem := Trace.mem_own.1 hmem
    have keyed' := Store.Keyed.of_mem outs.keyed outs.run hmem
    obtain ⟨hfound, -⟩ := Prod.mk.inj (outs.run.answers_of_mem hmem).callSessions_of_ok
    rw [hdeletions, ← Except.ok.inj hfound]
    exact keyed'.nodup_sessions.sublist ((List.filter_sublist.trans List.filter_sublist).map _)
  · rw [outs.run.own_eq_nil (by rw [outs.counted.length_eq]; omega)]
    exact List.nodup_nil

end SignOuts

/-! ### What the counts come to -/

/-- The sign-outs, of so many, that have deleted a session. -/
def callers (T : Trace Store) (n : Nat) (id : Id) : Finset Nat :=
  (Finset.range n).filter fun i => id ∈ deletions (T.own i)

/-- What the counts of sign-outs come to. -/
structure Tally (userId : Id) (s : Store) (T : Trace Store)
    (c : Crowd Store (Request × Job) (Except ServiceFailure Value)) (counts : List Nat) : Prop where
  /-- Each of them has listed the running sessions, has deleted these but the one that it is to keep, and has
      counted its deletions. -/
  sweeps : ∀ i r keep n, c.Finished i (r, .signOut userId keep) (.ok (.count n)) →
    Sweep userId (keep.map (·.id)) (T.own i) n
  /-- A session has been ended exactly if one of them has deleted it. -/
  deleted : ∀ id, id ∈ endedKeys userId s c.shared ↔ ∃ i, id ∈ deletions (T.own i)
  /-- Together they count each session that has been ended once for each of those who have deleted it. -/
  total : counts.sum = ∑ id ∈ endedKeys userId s c.shared, (callers T counts.length id).card
  /-- None is left out. -/
  atLeast : (ended userId s c.shared).length ≤ counts.sum
  /-- None is counted more often than there are sign-outs. -/
  atMost : counts.sum ≤ (ended userId s c.shared).length * counts.length
  /-- Each is counted once exactly if no two sign-outs have deleted the same session. -/
  once : counts.sum = (ended userId s c.shared).length ↔
    ∀ i j id, id ∈ deletions (T.own i) → id ∈ deletions (T.own j) → i = j
  /-- This is so if of any two sign-outs one comes before the other. -/
  apart : (∀ i j, i < counts.length → j < counts.length → i ≠ j → Precedes T i j ∨ Precedes T j i) →
    counts.sum = (ended userId s c.shared).length

namespace SignOuts

theorem mem_callers (outs : SignOuts h userId s T c counts) :
    i ∈ callers T counts.length id ↔ id ∈ deletions (T.own i) := by
  rw [callers, Finset.mem_filter, Finset.mem_range, and_iff_right_iff_imp]
  intro hid
  obtain ⟨x, hx, -⟩ := mem_deletions.1 hid
  exact outs.lt_of_mem (Trace.mem_own.1 hx)

/-- The counts, in order, are the numbers of deletions. -/
theorem counts_eq (outs : SignOuts h userId s T c counts) :
    counts = (List.range counts.length).map fun i => (deletions (T.own i)).length := by
  refine List.ext_getElem (by simp) fun i hi _ => ?_
  obtain ⟨r, keep, hfinished⟩ := outs.finished hi
  rw [List.getElem_map, List.getElem_range]
  exact (Sessions.sweep_of_finished outs.run hfinished).counted

/-- What one sign-out has counted are the sessions that have been ended and that it has deleted. -/
theorem length_deletions (outs : SignOuts h userId s T c counts) (i : Nat) :
    (deletions (T.own i)).length
      = ((endedKeys userId s c.shared).filter fun id => id ∈ deletions (T.own i)).card := by
  rw [← List.toFinset_card_of_nodup (outs.nodup_deletions i)]
  congr 1
  ext id
  rw [List.mem_toFinset, Finset.mem_filter, outs.mem_endedKeys_iff, iff_and_self]
  exact fun hid => ⟨i, hid⟩

/-- **Counting twice**: by sign-outs, and by the sessions that have been ended. -/
theorem sum_counts (outs : SignOuts h userId s T c counts) :
    counts.sum = ∑ id ∈ endedKeys userId s c.shared, (callers T counts.length id).card := by
  calc counts.sum
      = ((List.range counts.length).map fun i => (deletions (T.own i)).length).sum :=
        congrArg List.sum outs.counts_eq
    _ = ∑ i ∈ Finset.range counts.length, (deletions (T.own i)).length := rfl
    _ = ∑ i ∈ Finset.range counts.length,
          ((endedKeys userId s c.shared).filter fun id => id ∈ deletions (T.own i)).card :=
        Finset.sum_congr rfl fun i _ => outs.length_deletions i
    _ = ∑ id ∈ endedKeys userId s c.shared, (callers T counts.length id).card :=
        Finset.sum_card_bipartiteAbove_eq_sum_card_bipartiteBelow fun i id => id ∈ deletions (T.own i)

/-- Each session that has been ended has been deleted by somebody. -/
theorem one_le_card_callers (outs : SignOuts h userId s T c counts)
    (hid : id ∈ endedKeys userId s c.shared) : 1 ≤ (callers T counts.length id).card := by
  obtain ⟨i, hi⟩ := outs.mem_endedKeys_iff.1 hid
  exact Finset.card_pos.2 ⟨i, outs.mem_callers.2 hi⟩

theorem length_ended (outs : SignOuts h userId s T c counts) :
    (ended userId s c.shared).length = ∑ _ ∈ endedKeys userId s c.shared, 1 := by
  rw [← card_endedKeys outs.keyed, Finset.card_eq_sum_ones]

/-- **When each is counted once.** -/
theorem sum_eq_length_iff (outs : SignOuts h userId s T c counts) :
    counts.sum = (ended userId s c.shared).length ↔
      ∀ i j id, id ∈ deletions (T.own i) → id ∈ deletions (T.own j) → i = j := by
  rw [outs.sum_counts, outs.length_ended, eq_comm,
    Finset.sum_eq_sum_iff_of_le fun _ hid => outs.one_le_card_callers hid]
  constructor
  · intro hone i j id hi hj
    have hcard := hone id (outs.mem_endedKeys_iff.2 ⟨i, hi⟩)
    exact Finset.card_le_one.1 hcard.ge i (outs.mem_callers.2 hi) j (outs.mem_callers.2 hj)
  · intro single id hid
    refine le_antisymm (outs.one_le_card_callers hid) (Finset.card_le_one.2 fun i hi j hj => ?_)
    exact single i j id (outs.mem_callers.1 hi) (outs.mem_callers.1 hj)

end SignOuts

/-- **What the counts of concurrent sign-outs come to**: a session that has been ended is counted by each of
    those who have deleted it, so none is left out, and each is counted once exactly if no two of them have
    deleted the same session. -/
theorem signOuts_tally (outs : SignOuts h userId s T c counts) : Tally userId s T c counts where
  sweeps := fun i r keep n hi => Sessions.sweep_of_finished outs.run hi
  deleted := fun id => outs.mem_endedKeys_iff
  total := outs.sum_counts
  atLeast := by
    rw [outs.length_ended, outs.sum_counts]
    exact Finset.sum_le_sum fun id hid => outs.one_le_card_callers hid
  atMost := by
    rw [outs.sum_counts, ← card_endedKeys outs.keyed]
    refine Finset.sum_le_card_nsmul _ _ _ fun id _ => ?_
    exact (Finset.card_filter_le _ _).trans (Finset.card_range _).le
  once := outs.sum_eq_length_iff
  apart := by
    intro apart
    refine outs.sum_eq_length_iff.2 fun i j id hi hj => ?_
    by_contra hne
    have hlt {k : Nat} (hk : id ∈ deletions (T.own k)) : k < counts.length := by
      obtain ⟨x, hx, -⟩ := mem_deletions.1 hk
      exact outs.lt_of_mem (Trace.mem_own.1 hx)
    rcases apart i j (hlt hi) (hlt hj) hne with precedes | precedes
    · exact outs.disjoint precedes hi hj
    · exact outs.disjoint precedes hj hi

end SignOuts

/-! ### What one might expect -/

/-- The counts of concurrent sign-outs add up to the number of sessions that have been ended. -/
def CountsEachOnce (h : Hasher) : Prop :=
  ∀ (userId : Id) (s : Store) (T : Trace Store)
    (c : Crowd Store (Request × Job) (Except ServiceFailure Value)) (counts : List Nat),
    SignOuts h userId s T c counts → counts.sum = (ended userId s c.shared).length

section Overlap

variable {o : Surroundings} {s : Store}

/-- Deleting sessions that are gone changes nothing, and is counted all the same. -/
theorem Accounts.runOn_deleteEach_of_gone (context : String) {l : List Session}
    (gone : ∀ y ∈ l, s.liveSession? y.id = none) :
    (deleteEach context none l).runOn o s = (.ok l.length, s) := by
  induction l with
  | nil => rfl
  | cons y l ih =>
    have hcall : s.callSessions (.delete y) = (.ok y, s) := by
      show s.deleteSession y = _
      rw [Store.deleteSession, gone y List.mem_cons_self]
    rw [deleteEach, if_neg (Option.some_ne_none _), Service.runOn_bind, Service.runOn_sessions, hcall]
    show (deleteEach context none l >>= _ : Service Nat).runOn o s = _
    rw [Service.runOn_bind, ih fun z hz => gone z (List.mem_cons_of_mem _ hz)]
    rfl

/-- What is left of a sign-out once the running sessions are listed. -/
def Sessions.deleteListed (r : Request) (userId : Id) (found : List Session) : Service Nat := do
  let count ← Accounts.deleteEach deleteContext none found
  Service.log r .info "User sessions deleted" [Accounts.userField userId, ("deleted", .nat count)]
  return count

/-- A sign-out lists the running sessions with its second question. -/
theorem advance_signOut (h : Hasher) (r : Request) {userId : Id} (huser : userId ≠ 0) (o : Surroundings)
    (s : Store) : ((service h).program (r, .signOut userId none)).advance o 2 s
      = ((Sessions.deleteListed r userId (s.sessions.filter (Store.runsBeyond userId (o .clock)))
        >>= fun count => pure (Value.count count) : Service Value).run, s) := by
  show (Sessions.delete r userId none >>= _ : Service Value).run.advance o 2 s = _
  unfold Sessions.delete
  simp only [if_neg huser]
  show (Sessions.deleteListed r userId (s.sessions.filter (Store.runsBeyond userId (o .clock)))
    >>= fun count => pure (Value.count count) : Service Value).run.advance o 0 s = _
  rw [Program.advance]

/-- **Two sign-outs that overlap** count every session twice: both have listed the running sessions before
    either of them deletes one. -/
theorem run_overlapping (h : Hasher) (r : Request) {userId : Id} (huser : userId ≠ 0) (o : Surroundings)
    (unique : (s.sessions.map Session.id).Nodup) {n : Nat}
    (hn : s.sessions.countP (Store.runsBeyond userId (o .clock)) = n) : ∃ T s',
      (service h).Run ⟨s, []⟩ T ⟨s', [⟨(r, .signOut userId none), .done (.ok (.count n))⟩,
        ⟨(r, .signOut userId none), .done (.ok (.count n))⟩]⟩ := by
  have hreaches : reaches userId none (o .clock) = Store.runsBeyond userId (o .clock) := by
    funext x
    simp [reaches]
  have hwhole : ((service h).program (r, .signOut userId none)).runOn o s
      = (.ok (.count n), s.signedOut (Store.runsBeyond userId (o .clock))) := by
    show (Sessions.delete r userId none >>= _ : Service Value).runOn o s = _
    rw [Service.runOn_bind, Sessions.runOn_delete r huser none s unique]
    show (Except.ok (Value.count (s.sessions.countP (reaches userId none (o .clock)))),
      s.signedOut (reaches userId none (o .clock))) = _
    rw [hreaches, hn]
  -- the first one goes through its list although all of it is gone by then
  have hrest : (Sessions.deleteListed r userId (s.sessions.filter (Store.runsBeyond userId (o .clock))) >>=
      fun count => pure (Value.count count) : Service Value).runOn o
        (s.signedOut (Store.runsBeyond userId (o .clock)))
        = (.ok (.count n), s.signedOut (Store.runsBeyond userId (o .clock))) := by
    have hgone : ∀ y ∈ s.sessions.filter (Store.runsBeyond userId (o .clock)),
        (s.signedOut (Store.runsBeyond userId (o .clock))).liveSession? y.id = none := fun y hy =>
      liveSession?_signedOut_eq_none unique (List.mem_of_mem_filter hy) (List.of_mem_filter hy)
    rw [Service.runOn_bind, Sessions.deleteListed, Service.runOn_bind,
      Accounts.runOn_deleteEach_of_gone _ hgone, ← List.countP_eq_length_filter, hn]
    rfl
  obtain ⟨T, run⟩ := exists_run_overtaken (advance_signOut h r huser o s) hwhole hrest
  exact ⟨T, _, run⟩

end Overlap

/-- A user signs up and in, and is signed out twice at the same time. There was one session, and each caller
    has counted it. -/
theorem signOuts_overlapping : ∃ s T c,
    SignOuts plainHasher 1 s T c [1, 1] ∧ s.sessions.length = 1 := by
  obtain ⟨T₀, s, value, x, run, -, hsessions, running⟩ := run_addressSignIn
  have hcount : s.sessions.countP (Store.runsBeyond 1 ((Surroundings.calm .epoch) .clock)) = 1 := by
    rw [hsessions, List.countP_singleton]
    exact if_pos running
  have huser : (1 : Id) ≠ 0 := by decide
  obtain ⟨T, s', overlapping⟩ := run_overlapping plainHasher (.new "r" .epoch) huser (.calm .epoch)
    (keyed_of_run run).nodup_sessions hcount
  exact ⟨s, T, _, ⟨⟨T₀, _, run, rfl⟩, overlapping, .cons ⟨_, _, rfl⟩ (.cons ⟨_, _, rfl⟩ .nil)⟩,
    by rw [hsessions]; rfl⟩

theorem signOuts_tally_overlapping : ∃ s T c, SignOuts plainHasher 1 s T c [1, 1] ∧
    Tally 1 s T c [1, 1] ∧ (ended 1 s c.shared).length = 1 := by
  obtain ⟨s, T, c, outs, hone⟩ := signOuts_overlapping
  have tally := signOuts_tally outs
  have hle : (ended 1 s c.shared).length ≤ s.sessions.length := List.length_filter_le _ _
  have hmost : 2 ≤ (ended 1 s c.shared).length * 2 := tally.atMost
  exact ⟨s, T, c, outs, tally, by omega⟩

/-- **They may count more**, if they overlap. -/
theorem not_countsEachOnce : ¬ CountsEachOnce plainHasher := by
  intro claim
  obtain ⟨s, T, c, outs, hone⟩ := signOuts_overlapping
  have hsum : 2 = (ended 1 s c.shared).length := claim 1 s T c [1, 1] outs
  -- but there was only one session
  have hle : (ended 1 s c.shared).length ≤ s.sessions.length := List.length_filter_le _ _
  omega

end Turnstile
