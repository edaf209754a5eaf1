import Turnstile.Proofs.Postgres.Callers

namespace Turnstile.Postgres

open UnitOfWork (trail)

/-!
# The discipline of a connection

What is sent on the connection of a unit of work, and what its callers are told, in whatever order the steps
of any number of calls follow each other and whatever the server answers.

* `Disciplined` lists the properties, in terms of the order in which the calls got the lock.
* `discipline` is the proof: each property is read off the same calls made one after the other.
-/

variable {σ : Type} {w : UnitOfWork σ} {order : List (Nat × Ask)} {c : Callers σ} {T : List Event}

/-- **The discipline of one connection.** -/
structure Disciplined (w : UnitOfWork σ) (order : List (Nat × Ask)) (c : Callers σ) : Prop where
  /-- While nobody is at the server: the transaction was opened, then each call that got the lock has sent
      its command, up to and with the first that ends the transaction. -/
  sent : (∀ (i : Nat) (ask : Ask), c.calls[i]? ≠ some ⟨ask, .sending⟩) →
    c.unit.connection.sent = .begin :: trail (order.map (·.2))
  /-- While a call is at the server: the same, up to this call. -/
  sentBefore : ∀ (k i : Nat) (ask : Ask), order[k]? = some (i, ask) → c.calls[i]? = some ⟨ask, .sending⟩ →
    c.unit.connection.sent = .begin :: trail ((order.take k).map (·.2)) ∧
      ∀ p ∈ order.take k, p.2.ends = false
  /-- In any case: statements, then at most one commit or rollback, and then nothing. -/
  shape : ∃ statements closing, c.unit.connection.sent = .begin :: (statements ++ closing) ∧
    (∀ command ∈ statements, ∃ kind statement, command = .execute kind statement) ∧
    (closing = [] ∨ closing = [.commit] ∨ closing = [.rollback])
  /-- Behind the end, however it was answered and even before it is, a call is told that the transaction is
      closed, under the name of what it has attempted. -/
  late : ∀ (k i : Nat) (ask : Ask), order[k]? = some (i, ask) → (∃ p ∈ order.take k, p.2.ends = true) →
    c.calls[i]? = some ⟨ask, .back (.error (.closed ask.context)) ask.record⟩
  /-- Saving a user without a key has attempted to create it. -/
  lateCreation : ∀ (k i : Nat) (u : User), order[k]? = some (i, .users (.save u)) → u.id = 0 →
    (∃ p ∈ order.take k, p.2.ends = true) →
    c.calls[i]? = some ⟨.users (.save u), .back (.error (.closed "user repo create")) u⟩
  /-- A call that has got the lock is at the server, or has come back with what it would be answered if the
      calls before it had been made one after the other. -/
  answers : ∀ (k i : Nat) (ask : Ask), order[k]? = some (i, ask) → c.calls[i]? = some ⟨ask, .sending⟩ ∨
    c.calls[i]? = some (.answered ask ((w.behind order k).answer ask))
  /-- It gets the lock once, and up to then it waits. -/
  once : ∀ (k n i : Nat) (ask other : Ask), order[k]? = some (i, ask) → order[n]? = some (i, other) → k = n
  waits : ∀ (i : Nat) (ask : Ask) (stage : Stage ask), c.calls[i]? = some ⟨ask, stage⟩ →
    (∀ (k : Nat) (other : Ask), order[k]? ≠ some (i, other)) → stage = .waiting
  /-- A call that fails leaves its caller's record as it was. -/
  failed : ∀ (i : Nat) (ask : Ask) (f : RepositoryFailure) (record : ask.Record),
    c.calls[i]? = some ⟨ask, .back (.error f) record⟩ → record = ask.record
  /-- A call that succeeds has been answered by the server, in its turn. It returns what the answer holds,
      and writes only what the server has chosen into the record, as the answer tells it. -/
  written : ∀ (i : Nat) (ask : Ask) (result : ask.Result) (record : ask.Record),
    c.calls[i]? = some ⟨ask, .back (.ok result) record⟩ → ∃ (k : Nat) (reply : ask.command.Answer),
      order[k]? = some (i, ask) ∧ ((w.behind order k).connection.send ask.command).1 = .ok reply ∧
        ask.Yields reply result record
  /-- The transaction stays in its place until a call takes it to end it: no failure of another call does. -/
  kept : c.unit.isOpen = true ↔ ∀ p ∈ order, p.2.ends = false
  /-- The lock is never lost: as long as a call has not come back, there is a step to be made. -/
  unstuck : ∀ (i : Nat) (ask : Ask) (stage : Stage ask), c.calls[i]? = some ⟨ask, stage⟩ →
    (∀ result record, stage ≠ .back result record) → ∃ e c', c.Step e c' ∧ e ≠ .made

namespace Linear

variable {but : Option Nat} {i : Nat} {ask : Ask} (h : Linear w order c but)

include h

/-- A call that has come back has been answered by the unit of work at some point. -/
theorem answered_of_back {result : Except RepositoryFailure ask.Result} {record : ask.Record}
    (hi : c.calls[i]? = some ⟨ask, .back result record⟩) :
    ∃ k, order[k]? = some (i, ask) ∧ result = ((w.behind order k).answer ask).1 ∧
      record = ((w.behind order k).answer ask).2.1 := by
  have hbut : but ≠ some i := by
    intro hbut
    obtain ⟨other, hsends⟩ := h.sends_of_but hbut
    cases hi.symm.trans hsends
  by_cases hgot : ∃ (k : Nat) (other : Ask), order[k]? = some (i, other)
  · obtain ⟨k, other, hk⟩ := hgot
    have hanswered := h.settled k i other hk hbut
    cases hi.symm.trans hanswered
    exact ⟨k, hk, rfl, rfl⟩
  · cases h.waits i ask _ hi fun k other hk => hgot ⟨k, other, hk⟩

/-- The transaction is in its place as long as no call has ended it. -/
theorem isOpen_iff (hopen : w.isOpen = true) : c.unit.isOpen = true ↔ ∀ p ∈ order, p.2.ends = false := by
  have hall : (w.behind order order.length).isOpen = true ↔ _ := UnitOfWork.behind_isOpen hopen
  rw [List.take_length] at hall
  rw [← hall]
  cases h.server with
  | nobody unit => rw [unit]
  | holds k i ask got last ends unit found =>
    rw [← last, UnitOfWork.behind_succ got, unit, UnitOfWork.answer_open found, found, ends]
    rfl
  | took k i ask got ends unit taken =>
    rw [taken, UnitOfWork.behind_closed hopen got ends (List.getElem?_eq_some_iff.1 got).1]

/-- A call that is at the server has found the transaction as the calls before it have left it. -/
theorem behind_of_sends {k : Nat} (hk : order[k]? = some (i, ask))
    (hi : c.calls[i]? = some ⟨ask, .sending⟩) : w.behind order k = ⟨c.unit.connection, true⟩ := by
  have hbut := h.but_eq_of_sends hi
  cases h.server with
  | nobody => cases hbut
  | holds n _ _ got _ _ unit found =>
    cases hbut
    rw [h.once k n _ _ _ hk got, unit, ← found]
  | took n _ _ got _ unit =>
    cases hbut
    rw [h.once k n _ _ _ hk got, unit]

/-- A call that has got the lock is at the server, or it has come back. -/
theorem sends_or_answered {k : Nat} (hk : order[k]? = some (i, ask)) :
    c.calls[i]? = some ⟨ask, .sending⟩ ∨
      c.calls[i]? = some (.answered ask ((w.behind order k).answer ask)) := by
  by_cases hbut : but = some i
  · cases h.server with
    | nobody => cases hbut
    | holds n _ _ got _ _ _ _ _ sends | took n _ _ got _ _ _ _ sends =>
      cases hbut
      cases hk.symm.trans (h.once k n _ _ _ hk got ▸ got)
      exact .inl sends
  · exact .inr (h.settled k i ask hk hbut)

/-- A call behind the end has come back closed. -/
theorem late (hopen : w.isOpen = true) {k : Nat} (hk : order[k]? = some (i, ask))
    (hended : ∃ p ∈ order.take k, p.2.ends = true) :
    c.calls[i]? = some ⟨ask, .back (.error (.closed ask.context)) ask.record⟩ := by
  have hclosed : (w.behind order k).isOpen = false := by
    obtain ⟨p, hp, hends⟩ := hended
    rw [Bool.eq_false_iff, Ne, UnitOfWork.behind_isOpen hopen]
    exact fun hall => by cases hends.symm.trans (hall p hp)
  rcases h.sends_or_answered hk with hsends | hanswered
  · -- it would have found the transaction
    rw [h.behind_of_sends hk hsends] at hclosed
    cases hclosed
  · rwa [UnitOfWork.answer_closed hclosed] at hanswered

/-- What has been sent is what the calls up to some point have sent: up to the last if nobody is at the
    server. -/
theorem exists_behind : ∃ k, (w.behind order k).connection = c.unit.connection ∧
    ((∀ (i : Nat) (ask : Ask), c.calls[i]? ≠ some ⟨ask, .sending⟩) → k = order.length) := by
  cases h.server with
  | nobody unit => exact ⟨order.length, by rw [unit], fun _ => rfl⟩
  | holds k i ask _ _ _ unit _ _ sends =>
    exact ⟨k, by rw [unit], fun hnobody => absurd sends (hnobody i ask)⟩
  | took k i ask _ _ unit _ _ sends =>
    exact ⟨k, by rw [unit], fun hnobody => absurd sends (hnobody i ask)⟩

/-- As long as a call has not come back, there is a step to be made. -/
theorem unstuck {stage : Stage ask} (hi : c.calls[i]? = some ⟨ask, stage⟩)
    (hstage : ∀ result record, stage ≠ .back result record) : ∃ e c', c.Step e c' ∧ e ≠ .made := by
  cases stage with
  | back result record => exact absurd rfl (hstage result record)
  | sending => exact ⟨_, _, .serve hi, nofun⟩
  | waiting =>
    -- it gets the lock, unless a call that has it is at the server and can be answered
    cases hholder : c.holder with
    | none =>
      cases hopen : c.unit.isOpen with
      | false => exact ⟨_, _, .refuse hi hholder hopen, nofun⟩
      | true =>
        cases hends : ask.ends with
        | false => exact ⟨_, _, .hold hi hholder hopen hends, nofun⟩
        | true => exact ⟨_, _, .take hi hholder hopen hends, nofun⟩
    | some j =>
      cases h.server with
      | nobody _ free => cases hholder.symm.trans free
      | took _ _ _ _ _ _ _ free => cases hholder.symm.trans free
      | holds _ _ _ _ _ _ _ _ _ sends => exact ⟨_, _, .serve sends, nofun⟩

end Linear

/-- Opening a transaction sends that and nothing else. -/
theorem begin_of_ok {server : Server σ} {state : σ}
    (h : (UnitOfWork.begin (Connection.new server state)).1 = .ok w) :
    w.isOpen = true ∧ w.connection.sent = [.begin] := by
  unfold UnitOfWork.begin at h
  cases hanswer : ((Connection.new server state).send .begin).1 with
  | error fault => simp [hanswer, classify, Except.map, Except.mapError] at h
  | ok =>
    simp only [hanswer, classify, Except.map, Except.mapError] at h
    obtain rfl := Except.ok.inj h
    exact ⟨rfl, rfl⟩

/-- **Every unit of work keeps the discipline**, whatever its server answers, and in whatever order the
    steps of its callers follow each other. -/
theorem discipline {server : Server σ} {state : σ}
    (begun : (UnitOfWork.begin (Connection.new server state)).1 = .ok w) (run : Callers.Run w T c) :
    Disciplined w (lockOrder T) c := by
  obtain ⟨hopen, hbegin⟩ := begin_of_ok begun
  obtain ⟨but, h⟩ := linear_of_run hopen run
  -- behind any number of calls, the opening and their trail have been sent
  have hsent (k : Nat) : (w.behind (lockOrder T) k).connection.sent
      = .begin :: trail (((lockOrder T).take k).map (·.2)) := by
    rw [UnitOfWork.behind_sent hopen, hbegin]
    rfl
  -- the connection is the one behind the first calls: all of them, unless one is at the server
  obtain ⟨m, hconnection, hlast⟩ := h.exists_behind
  exact {
    sent := by
      intro hnobody
      rw [← hconnection, hsent, hlast hnobody, List.take_length]
    sentBefore := by
      intro k i ask hk hi
      have hunit := h.behind_of_sends hk hi
      have hbefore := hsent k
      rw [hunit] at hbefore
      refine ⟨hbefore, (UnitOfWork.behind_isOpen hopen).1 ?_⟩
      rw [hunit]
    shape := by
      obtain ⟨statements, closing, htrail, hshape⟩ :=
        UnitOfWork.trail_shape (((lockOrder T).take m).map (·.2))
      exact ⟨statements, closing, by rw [← hconnection, hsent, htrail], hshape⟩
    late := fun _ _ _ hk hended => h.late hopen hk hended
    lateCreation := by
      intro k i u hk hid hended
      have hback := h.late hopen hk hended
      have hcontext : (Ask.users (.save u)).context = "user repo create" := by
        show (if u.id = 0 then _ else _) = _
        rw [if_pos hid]
      rwa [hcontext] at hback
    answers := fun _ _ _ hk => h.sends_or_answered hk
    once := h.once
    waits := h.waits
    failed := by
      intro i ask f record hi
      obtain ⟨k, -, hresult, hrecord⟩ := h.answered_of_back hi
      rw [hrecord, UnitOfWork.record_of_error hresult.symm]
    written := by
      intro i ask result record hi
      obtain ⟨k, hk, hresult, rfl⟩ := h.answered_of_back hi
      obtain ⟨reply, hreply, yields⟩ := UnitOfWork.yields_of_ok hresult.symm
      exact ⟨k, reply, hk, hreply, yields⟩
    kept := h.isOpen_iff hopen
    unstuck := fun _ _ _ hi hstage => h.unstuck hi hstage }

/-! ### A call that overlaps with a commit -/

/-- A server that fails to commit, and has no rows. -/
def Server.commitless : Server Unit where
  answer
    | .commit, _ => (.error .poolClosed, ())
    | .begin, _ | .rollback, _ | .script _, _ => (.ok (), ())
    | .execute .., _ => (.ok [], ())

/-- A commit waits for a probe. While it is on its way, and about to fail, a new user comes too late. -/
theorem discipline_overlapping : ∃ (w : UnitOfWork Unit) (T : List Event) (c : Callers Unit),
    (UnitOfWork.begin (Connection.new Server.commitless ())).1 = .ok w ∧ Callers.Run w T c ∧
    Disciplined w (lockOrder T) c ∧
    c.unit.connection.sent = [.begin, .execute .nothing probe, .commit] ∧
    c.calls[1]? = some ⟨.backend .commit, .back (.error (.ofDriver "transaction commit" .poolClosed)) ()⟩ ∧
    c.calls[2]? = some ⟨.users (.save .new), .back (.error (.closed "user repo create")) .new⟩ := by
  have begun : (UnitOfWork.begin (Connection.new Server.commitless ())).1 = .ok ⟨_, true⟩ := rfl
  have opened := Callers.Run.start (w := ⟨((Connection.new Server.commitless ()).send .begin).2, true⟩)
  have made := ((opened.step (.make _ (.backend .ping))).step (.make _ (.backend .commit))).step
    (.make _ (.users (.save .new)))
  -- the probe holds the lock until it is answered, and only then the commit gets it
  have held := made.step (.hold (i := 0) rfl rfl rfl rfl)
  have probed := held.step (.serve (i := 0) rfl)
  have taken := probed.step (.take (i := 1) rfl rfl rfl rfl)
  -- the user finds no transaction, although the commit is not answered yet
  have refused := taken.step (.refuse (i := 2) rfl rfl rfl)
  have failed := refused.step (.serve (i := 1) rfl)
  exact ⟨_, _, _, begun, failed, discipline begun failed, rfl, rfl, rfl⟩

end Turnstile.Postgres
