import Mathlib.Tactic.ByContra
import Turnstile.Proofs.Postgres.Sequence

namespace Turnstile.Postgres

open UnitOfWork (trail)

/-!
# Callers of one unit of work

Any number of tasks call one unit of work at once. A lock admits one of them at a time. A call that finds
the transaction keeps the lock until the server has answered it; only the end of the transaction takes the
transaction away and lets go of the lock before it is sent. So calls may come back closed while a commit is
still under way.

* `Callers.Step` is one step of one task, and `Callers.Run` is a run, with what has happened in it.
* `lockOrder` lists the calls in the order in which they got the lock.
* `Linear` is the invariant: behind every step, each call that has got the lock has come back with what it
  would have been answered if the calls before it had been made one after the other, except for at most one
  that is at the server. `linear_of_run` is the induction.
-/

/-! ### The system -/

/-- How far a call has come. -/
inductive Stage (ask : Ask) where
  /-- It waits for the lock. -/
  | waiting
  /-- It has found the transaction, and is at the server. -/
  | sending
  /-- It has come back. -/
  | back (result : Except RepositoryFailure ask.Result) (record : ask.Record)

/-- A call of some task. -/
structure Call where
  ask : Ask
  stage : Stage ask

/-- A call that has come back with an answer. -/
def Call.answered (ask : Ask) (answer : Except RepositoryFailure ask.Result × ask.Record × UnitOfWork σ) :
    Call := ⟨ask, .back answer.1 answer.2.1⟩

/-- The unit of work, open as long as the transaction is in its place; who holds the lock; and the calls in
    the order in which they were made. -/
structure Callers (σ : Type) where
  unit : UnitOfWork σ
  holder : Option Nat
  calls : List Call

/-- What happens: a call is made, gets the lock, or is answered. -/
inductive Event where
  | made
  | locked (i : Nat) (ask : Ask)
  | answered (i : Nat)

namespace Callers

/-- One step of one task. -/
inductive Step : Callers σ → Event → Callers σ → Prop where
  | make (c : Callers σ) (ask : Ask) : Step c .made { c with calls := c.calls ++ [⟨ask, .waiting⟩] }
  /-- A call finds the transaction, and keeps the lock. -/
  | hold {c : Callers σ} {i : Nat} {ask : Ask} (waits : c.calls[i]? = some ⟨ask, .waiting⟩)
      (free : c.holder = none) (found : c.unit.isOpen = true) (ends : ask.ends = false) :
      Step c (.locked i ask) { c with holder := some i, calls := c.calls.set i ⟨ask, .sending⟩ }
  /-- The end takes the transaction away, and lets go of the lock. -/
  | take {c : Callers σ} {i : Nat} {ask : Ask} (waits : c.calls[i]? = some ⟨ask, .waiting⟩)
      (free : c.holder = none) (found : c.unit.isOpen = true) (ends : ask.ends = true) :
      Step c (.locked i ask) ⟨⟨c.unit.connection, false⟩, none, c.calls.set i ⟨ask, .sending⟩⟩
  /-- A call finds no transaction. -/
  | refuse {c : Callers σ} {i : Nat} {ask : Ask} (waits : c.calls[i]? = some ⟨ask, .waiting⟩)
      (free : c.holder = none) (closed : c.unit.isOpen = false) :
      Step c (.locked i ask)
        ⟨(c.unit.answer ask).2.2, none, c.calls.set i (.answered ask (c.unit.answer ask))⟩
  /-- The server answers a call; if this call has kept the lock, it now lets go of it. -/
  | serve {c : Callers σ} {i : Nat} {ask : Ask} (sends : c.calls[i]? = some ⟨ask, .sending⟩) :
      Step c (.answered i)
        ⟨⟨(UnitOfWork.answer ⟨c.unit.connection, true⟩ ask).2.2.connection, c.unit.isOpen⟩,
          if c.holder = some i then none else c.holder,
          c.calls.set i (.answered ask (UnitOfWork.answer ⟨c.unit.connection, true⟩ ask))⟩

/-- A run on a unit of work, with what has happened. -/
inductive Run (w : UnitOfWork σ) : List Event → Callers σ → Prop where
  | start : Run w [] ⟨w, none, []⟩
  | step {T : List Event} {c c' : Callers σ} {e : Event} (run : Run w T c) (step : Step c e c') :
      Run w (T ++ [e]) c'

end Callers

/-- The calls that have got the lock, in this order. -/
def lockOrder (T : List Event) : List (Nat × Ask) :=
  T.filterMap fun
    | .locked i ask => some (i, ask)
    | .made | .answered _ => none

section Order

variable {T : List Event} {i : Nat} {ask : Ask}

@[simp] theorem lockOrder_made : lockOrder (T ++ [.made]) = lockOrder T := by simp [lockOrder]

@[simp] theorem lockOrder_answered : lockOrder (T ++ [.answered i]) = lockOrder T := by simp [lockOrder]

@[simp] theorem lockOrder_locked : lockOrder (T ++ [.locked i ask]) = lockOrder T ++ [(i, ask)] := by
  simp [lockOrder]

end Order

/-! ### Calls in the order of the lock -/

variable {σ : Type} {w : UnitOfWork σ} {order : List (Nat × Ask)} {c c' : Callers σ} {T : List Event}
  {e : Event} {i j k n : Nat} {ask : Ask} {p : Nat × Ask}

namespace UnitOfWork

/-- What has become of a unit of work behind the first calls that got the lock. -/
def behind (w : UnitOfWork σ) (order : List (Nat × Ask)) (k : Nat) : UnitOfWork σ :=
  (w.run ((order.take k).map (·.2))).2

theorem behind_snoc (h : k ≤ order.length) : w.behind (order ++ [p]) k = w.behind order k := by
  rw [behind, behind, List.take_append_of_le_length h]

/-- Behind one more call. -/
theorem behind_succ (h : order[k]? = some (i, ask)) :
    w.behind order (k + 1) = ((w.behind order k).answer ask).2.2 := by
  rw [behind, List.take_add_one, h, Option.toList_some, List.map_append, run_append]
  rfl

theorem behind_isOpen (h : w.isOpen = true) :
    (w.behind order k).isOpen = true ↔ ∀ p ∈ order.take k, p.2.ends = false := by
  rw [behind, isOpen_run h, List.forall_mem_map]

theorem behind_sent (h : w.isOpen = true) :
    (w.behind order k).connection.sent = w.connection.sent ++ trail ((order.take k).map (·.2)) := sent_run h

/-- Behind the end, nothing changes. -/
theorem behind_of_closed (h : (w.behind order k).isOpen = false) (hle : k ≤ n) :
    w.behind order n = w.behind order k := by
  obtain ⟨d, rfl⟩ := Nat.exists_eq_add_of_le hle
  rw [behind, List.take_add, List.map_append, run_append]
  exact run_closed h

/-- The transaction is closed behind a call that ends it. -/
theorem behind_closed (h : w.isOpen = true) (hk : order[k]? = some (i, ask)) (hends : ask.ends = true)
    (hlt : k < n) : (w.behind order n).isOpen = false := by
  rw [Bool.eq_false_iff, Ne, behind_isOpen h]
  intro hopen
  have hmem : (i, ask) ∈ order.take n := by
    rw [List.mem_iff_getElem?]
    exact ⟨k, by rw [List.getElem?_take_of_lt hlt, hk]⟩
  cases hends.symm.trans (hopen _ hmem)

end UnitOfWork

/-! ### The invariant -/

/-- Where the transaction is, and who is at the server. -/
inductive AtServer (w : UnitOfWork σ) (order : List (Nat × Ask)) (c : Callers σ) : Option Nat → Prop where
  /-- Nobody is at the server. -/
  | nobody (unit : w.behind order order.length = c.unit) (free : c.holder = none) : AtServer w order c none
  /-- A call is at the server with the lock: it was the last that got it. -/
  | holds (k : Nat) (i : Nat) (ask : Ask) (got : order[k]? = some (i, ask)) (last : k + 1 = order.length)
      (ends : ask.ends = false) (unit : w.behind order k = c.unit) (found : c.unit.isOpen = true)
      (held : c.holder = some i) (sends : c.calls[i]? = some ⟨ask, .sending⟩) : AtServer w order c (some i)
  /-- The end is at the server: it has taken the transaction with it. -/
  | took (k : Nat) (i : Nat) (ask : Ask) (got : order[k]? = some (i, ask)) (ends : ask.ends = true)
      (unit : w.behind order k = ⟨c.unit.connection, true⟩) (taken : c.unit.isOpen = false)
      (free : c.holder = none) (sends : c.calls[i]? = some ⟨ask, .sending⟩) : AtServer w order c (some i)

/-- All that have got the lock, but for one, have come back with what they would have been answered if they
    had been made one after the other. -/
def Settled (w : UnitOfWork σ) (order : List (Nat × Ask)) (calls : List Call) (but : Option Nat) : Prop :=
  ∀ k i ask, order[k]? = some (i, ask) → but ≠ some i →
    calls[i]? = some (.answered ask ((w.behind order k).answer ask))

/-- **The invariant**: one call after the other, but for the one that is at the server. -/
structure Linear (w : UnitOfWork σ) (order : List (Nat × Ask)) (c : Callers σ) (but : Option Nat) :
    Prop where
  server : AtServer w order c but
  settled : Settled w order c.calls but
  /-- A call gets the lock at most once. -/
  once : ∀ (k n i : Nat) (ask other : Ask), order[k]? = some (i, ask) → order[n]? = some (i, other) → k = n
  /-- Before it gets the lock, it waits. -/
  waits : ∀ (i : Nat) (ask : Ask) (stage : Stage ask), c.calls[i]? = some ⟨ask, stage⟩ →
    (∀ (k : Nat) (other : Ask), order[k]? ≠ some (i, other)) → stage = .waiting

namespace Linear

variable {but : Option Nat} (h : Linear w order c but)

include h

/-- Who is excepted is at the server. -/
theorem sends_of_but (hbut : but = some i) : ∃ ask, c.calls[i]? = some ⟨ask, .sending⟩ := by
  cases h.server with
  | nobody => cases hbut
  | holds _ _ ask _ _ _ _ _ _ sends | took _ _ ask _ _ _ _ _ sends =>
    cases hbut
    exact ⟨ask, sends⟩

/-- A call that waits has not got the lock. -/
theorem not_got (hi : c.calls[i]? = some ⟨ask, .waiting⟩) (k : Nat) (other : Ask) :
    order[k]? ≠ some (i, other) := by
  intro hk
  by_cases hbut : but = some i
  · obtain ⟨ask', hsends⟩ := h.sends_of_but hbut
    cases hi.symm.trans hsends
  · cases hi.symm.trans (h.settled k i other hk hbut)

/-- Whoever is at the server is the one that has not come back. -/
theorem but_eq_of_sends (hi : c.calls[i]? = some ⟨ask, .sending⟩) : but = some i := by
  by_contra hbut
  by_cases hgot : ∃ (k : Nat) (other : Ask), order[k]? = some (i, other)
  · obtain ⟨k, other, hk⟩ := hgot
    cases hi.symm.trans (h.settled k i other hk hbut)
  · cases h.waits i ask _ hi fun k other hk => hgot ⟨k, other, hk⟩

/-- A call that gets the lock is new in the order. -/
theorem once_snoc (hi : c.calls[i]? = some ⟨ask, .waiting⟩) (k n j : Nat) (a b : Ask)
    (hk : (order ++ [(i, ask)])[k]? = some (j, a)) (hn : (order ++ [(i, ask)])[n]? = some (j, b)) :
    k = n := by
  have hnot := h.not_got hi
  -- each of the two places is an old one or the last one
  have hplace (m : Nat) (d : Ask) (hm : (order ++ [(i, ask)])[m]? = some (j, d)) :
      order[m]? = some (j, d) ∨ m = order.length ∧ j = i := by
    rcases Nat.lt_trichotomy m order.length with hlt | rfl | hgt
    · rw [List.getElem?_append_left hlt] at hm
      exact .inl hm
    · rw [List.getElem?_concat_length] at hm
      cases hm
      exact .inr ⟨rfl, rfl⟩
    · rw [List.getElem?_eq_none (by simp; omega)] at hm
      cases hm
  rcases hplace k a hk with hk | ⟨rfl, rfl⟩ <;> rcases hplace n b hn with hn | ⟨rfl, hj⟩
  · exact h.once k n j a b hk hn
  · exact absurd (hj ▸ hk) (hnot k a)
  · exact absurd hn (hnot n b)
  · rfl

/-- The others wait on. -/
theorem waits_snoc (x : Call) (j : Nat) (a : Ask) (stage : Stage a)
    (hj : (c.calls.set i x)[j]? = some ⟨a, stage⟩)
    (hnot : ∀ (k : Nat) (other : Ask), (order ++ [(i, ask)])[k]? ≠ some (j, other)) : stage = .waiting := by
  have hne : i ≠ j := by
    rintro rfl
    exact hnot order.length ask (by rw [List.getElem?_concat_length])
  rw [List.getElem?_set_ne hne] at hj
  refine h.waits j a stage hj fun k other hk => hnot k other ?_
  rw [List.getElem?_append_left (List.getElem?_eq_some_iff.1 hk).1, hk]

/-- What has come back stays; a new call has come back with its answer, or is at the server. -/
theorem settled_snoc (hi : c.calls[i]? = some ⟨ask, .waiting⟩) (x : Call) {but' : Option Nat}
    (hbut : but' = but ∧ x = .answered ask ((w.behind order order.length).answer ask) ∨
      but = none ∧ but' = some i) :
    Settled w (order ++ [(i, ask)]) (c.calls.set i x) but' := by
  intro k j a hk hne
  rcases Nat.lt_or_ge k order.length with hlt | hge
  · -- an old one
    rw [List.getElem?_append_left hlt] at hk
    have hij : i ≠ j := by
      rintro rfl
      exact h.not_got hi k a hk
    rw [UnitOfWork.behind_snoc (Nat.le_of_lt hlt), List.getElem?_set_ne hij]
    refine h.settled k j a hk ?_
    rcases hbut with ⟨rfl, -⟩ | ⟨rfl, -⟩
    · exact hne
    · exact nofun
  · -- the new one
    have hkEnd : k = order.length := by
      have := (List.getElem?_eq_some_iff.1 hk).1
      rw [List.length_append, List.length_singleton] at this
      omega
    subst hkEnd
    rw [List.getElem?_concat_length] at hk
    cases hk
    rw [UnitOfWork.behind_snoc (Nat.le_refl _), List.getElem?_set_self (List.getElem?_eq_some_iff.1 hi).1]
    rcases hbut with ⟨-, rfl⟩ | ⟨-, rfl⟩
    · rfl
    · exact absurd rfl hne

/-! ### Steps -/

/-- A call is made. -/
theorem make (ask : Ask) : Linear w order { c with calls := c.calls ++ [⟨ask, .waiting⟩] } but := by
  have hkeep {i : Nat} {x : Call} (hi : c.calls[i]? = some x) :
      (c.calls ++ [⟨ask, .waiting⟩])[i]? = some x := by
    rw [List.getElem?_append_left (List.getElem?_eq_some_iff.1 hi).1, hi]
  refine ⟨?_, fun k i a hk hne => hkeep (h.settled k i a hk hne), h.once, ?_⟩
  · cases h.server with
    | nobody unit free => exact .nobody unit free
    | holds k i a got last ends unit found held sends =>
      exact .holds k i a got last ends unit found held (hkeep sends)
    | took k i a got ends unit taken free sends => exact .took k i a got ends unit taken free (hkeep sends)
  · intro i a stage hi hnot
    rcases Nat.lt_or_ge i c.calls.length with hlt | hge
    · rw [List.getElem?_append_left hlt] at hi
      exact h.waits i a stage hi hnot
    · rw [List.getElem?_append_right hge, List.getElem?_singleton] at hi
      split at hi
      · cases hi
        rfl
      · cases hi

/-- A call finds the transaction: nobody was at the server. -/
theorem free_of_found (free : c.holder = none) (found : c.unit.isOpen = true) : but = none := by
  cases h.server with
  | nobody => rfl
  | holds _ _ _ _ _ _ _ _ held => cases free.symm.trans held
  | took _ _ _ _ _ _ taken => cases found.symm.trans taken

theorem unit_of_nobody (hbut : but = none) : w.behind order order.length = c.unit := by
  cases h.server with
  | nobody unit => exact unit
  | holds | took => cases hbut

theorem hold (waits : c.calls[i]? = some ⟨ask, .waiting⟩) (free : c.holder = none)
    (found : c.unit.isOpen = true) (ends : ask.ends = false) :
    Linear w (order ++ [(i, ask)]) { c with holder := some i, calls := c.calls.set i ⟨ask, .sending⟩ }
      (some i) := by
  have hnone := h.free_of_found free found
  refine ⟨?_, h.settled_snoc waits _ (.inr ⟨hnone, rfl⟩), h.once_snoc waits, h.waits_snoc _⟩
  refine .holds order.length i ask ?_ ?_ ends ?_ found rfl ?_
  · rw [List.getElem?_concat_length]
  · rw [List.length_append, List.length_singleton]
  · rw [UnitOfWork.behind_snoc (Nat.le_refl _), h.unit_of_nobody hnone]
  · rw [List.getElem?_set_self (List.getElem?_eq_some_iff.1 waits).1]

theorem take (waits : c.calls[i]? = some ⟨ask, .waiting⟩) (free : c.holder = none)
    (found : c.unit.isOpen = true) (ends : ask.ends = true) :
    Linear w (order ++ [(i, ask)]) ⟨⟨c.unit.connection, false⟩, none, c.calls.set i ⟨ask, .sending⟩⟩
      (some i) := by
  have hnone := h.free_of_found free found
  refine ⟨?_, h.settled_snoc waits _ (.inr ⟨hnone, rfl⟩), h.once_snoc waits, h.waits_snoc _⟩
  refine .took order.length i ask ?_ ends ?_ rfl rfl ?_
  · rw [List.getElem?_concat_length]
  · rw [UnitOfWork.behind_snoc (Nat.le_refl _), h.unit_of_nobody hnone, ← found]
  · rw [List.getElem?_set_self (List.getElem?_eq_some_iff.1 waits).1]

/-- A call finds no transaction: it has come back at once, and would have done so in its turn. -/
theorem refuse (hopen : w.isOpen = true) (waits : c.calls[i]? = some ⟨ask, .waiting⟩)
    (closed : c.unit.isOpen = false) :
    Linear w (order ++ [(i, ask)])
      ⟨(c.unit.answer ask).2.2, none, c.calls.set i (.answered ask (c.unit.answer ask))⟩ but := by
  have hunit : (c.unit.answer ask).2.2 = c.unit := by rw [UnitOfWork.answer_closed closed]
  have hlength : (order ++ [(i, ask)]).length = order.length + 1 := by simp
  -- in its turn, it would have found no transaction either
  have hbehind : (w.behind order order.length).isOpen = false := by
    cases h.server with
    | nobody unit => rwa [unit]
    | holds _ _ _ _ _ _ _ found => cases closed.symm.trans found
    | took k _ _ got ends =>
      exact UnitOfWork.behind_closed hopen got ends (List.getElem?_eq_some_iff.1 got).1
  have hanswer : Call.answered ask (c.unit.answer ask)
      = .answered ask ((w.behind order order.length).answer ask) := by
    rw [UnitOfWork.answer_closed closed, UnitOfWork.answer_closed hbehind]
    rfl
  refine ⟨?_, h.settled_snoc waits _ (.inl ⟨rfl, hanswer⟩), h.once_snoc waits, h.waits_snoc _⟩
  rw [hunit]
  cases h.server with
  | nobody unit =>
    refine .nobody ?_ rfl
    rw [hlength, UnitOfWork.behind_of_closed (k := order.length) ?_ (Nat.le_succ _),
      UnitOfWork.behind_snoc (Nat.le_refl _), unit]
    rwa [UnitOfWork.behind_snoc (Nat.le_refl _)]
  | holds _ _ _ _ _ _ _ found => cases closed.symm.trans found
  | took k j a got ends unit taken _ sends =>
    have hlt := (List.getElem?_eq_some_iff.1 got).1
    have hij : i ≠ j := by
      rintro rfl
      cases waits.symm.trans sends
    refine .took k j a ?_ ends ?_ taken rfl ?_
    · rw [List.getElem?_append_left hlt, got]
    · rw [UnitOfWork.behind_snoc (Nat.le_of_lt hlt), unit]
    · rw [List.getElem?_set_ne hij, sends]

/-- The server answers the call that is there. -/
theorem serve (hopen : w.isOpen = true) (sends : c.calls[i]? = some ⟨ask, .sending⟩) :
    Linear w order
      ⟨⟨(UnitOfWork.answer ⟨c.unit.connection, true⟩ ask).2.2.connection, c.unit.isOpen⟩,
        if c.holder = some i then none else c.holder,
        c.calls.set i (.answered ask (UnitOfWork.answer ⟨c.unit.connection, true⟩ ask))⟩ none := by
  have hbut := h.but_eq_of_sends sends
  -- it has found the transaction, as it would have done in its turn
  obtain ⟨k, got, unit⟩ : ∃ k, order[k]? = some (i, ask) ∧ w.behind order k = ⟨c.unit.connection, true⟩ := by
    cases h.server with
    | nobody => cases hbut
    | holds k j a got _ _ unit found _ sends' =>
      cases hbut
      cases sends.symm.trans sends'
      exact ⟨k, got, by rw [unit, ← found]⟩
    | took k j a got _ unit _ _ sends' =>
      cases hbut
      cases sends.symm.trans sends'
      exact ⟨k, got, unit⟩
  have hnext := UnitOfWork.behind_succ (w := w) got
  rw [unit] at hnext
  have hanswer := UnitOfWork.answer_open (w := ⟨c.unit.connection, true⟩) rfl ask
  have hlt := (List.getElem?_eq_some_iff.1 got).1
  refine ⟨?_, ?_, h.once, ?_⟩
  · -- now nobody is at the server
    cases h.server with
    | nobody => cases hbut
    | holds n j a got' last ends _ found held sends' =>
      cases hbut
      cases sends.symm.trans sends'
      obtain rfl := h.once k n _ _ _ got got'
      refine .nobody ?_ (by simp [held])
      rw [← last, hnext, hanswer, ends, found]
      rfl
    | took n j a got' ends _ taken free sends' =>
      cases hbut
      cases sends.symm.trans sends'
      obtain rfl := h.once k n _ _ _ got got'
      refine .nobody ?_ (by simp [free])
      rw [UnitOfWork.behind_of_closed (UnitOfWork.behind_closed hopen got ends (Nat.lt_succ_self k)) hlt,
        hnext, hanswer, ends, taken]
      rfl
  · intro n j a got' _
    by_cases hij : i = j
    · subst hij
      obtain rfl := h.once k n _ _ _ got got'
      cases got.symm.trans got'
      rw [List.getElem?_set_self (List.getElem?_eq_some_iff.1 sends).1, unit]
    · rw [List.getElem?_set_ne hij]
      exact h.settled n j a got' (by rw [hbut]; exact fun heq => hij (Option.some.inj heq))
  · intro j a stage hj hnot
    by_cases hij : i = j
    · subst hij
      exact absurd got (hnot k ask)
    · rw [List.getElem?_set_ne hij] at hj
      exact h.waits j a stage hj hnot

end Linear

/-- **Every step keeps the invariant.** -/
theorem linear_of_step {but : Option Nat} (hopen : w.isOpen = true) (h : Linear w (lockOrder T) c but)
    (step : c.Step e c') : ∃ but', Linear w (lockOrder (T ++ [e])) c' but' := by
  cases step with
  | make ask => exact ⟨but, by rw [lockOrder_made]; exact h.make ask⟩
  | hold waits free found ends => exact ⟨_, by rw [lockOrder_locked]; exact h.hold waits free found ends⟩
  | take waits free found ends => exact ⟨_, by rw [lockOrder_locked]; exact h.take waits free found ends⟩
  | refuse waits _ closed => exact ⟨_, by rw [lockOrder_locked]; exact h.refuse hopen waits closed⟩
  | serve sends => exact ⟨_, by rw [lockOrder_answered]; exact h.serve hopen sends⟩

/-- **Every run is one call after the other**, but for the one that is at the server. -/
theorem linear_of_run (hopen : w.isOpen = true) (run : Callers.Run w T c) :
    ∃ but, Linear w (lockOrder T) c but := by
  induction run with
  | start =>
    refine ⟨none, .nobody rfl rfl, ?_, ?_, ?_⟩
    all_goals simp [Settled, lockOrder]
  | step _ step ih =>
    obtain ⟨but, h⟩ := ih
    exact linear_of_step hopen h step

end Turnstile.Postgres
