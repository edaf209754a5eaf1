import Turnstile.Proofs.Service.Undisturbed

namespace Turnstile

open Credential (Hasher)
open Service (notes Given)

/-!
# Operations that look a user up

What has been exchanged when such an operation comes back.

* `Accounts.get_passes`: getting a user is one lookup, and comes back with what it has found.
  `Accounts.runOn_get`: by itself it finds the live row with the key.
* `Sessions.Accepted` lists the exchanges of a verification that accepts a credential, and
  `Sessions.verify_passes` says that these are all there are.
-/

section Passes

variable {h : Hasher} {r : Request} {past : List (Exchange Store)}

/-- What getting a user comes back with, once it has been answered. -/
def Accounts.got : Except RepositoryFailure (Option User) → Except ServiceFailure User
  | .ok (some u) => .ok u
  | .ok none => .error (.rejected .userNotFound)
  | .error f => .error (.repository getContext f)

/-- **Getting a user** is one lookup, if there is a key. -/
theorem Accounts.get_passes (id : Id) :
    (Accounts.get id).Passes notes (fun past' result =>
      (id = 0 ∧ past' = past ∧ result = .error (.rejected .userIdMissing)) ∨
      ∃ answer before after, past' = past ++ [⟨.users (.getById id), answer, before, after⟩] ∧
        result = Accounts.got answer) past := by
  unfold Accounts.get
  by_cases hid : id = 0
  · simp only [if_pos hid]
    exact .inl ⟨hid, rfl, rfl⟩
  · simp only [if_neg hid]
    show Service.Passes _ _ (Service.users Accounts.getContext (.getById id) >>= _) _
    rw [Service.passes_bind, Service.passes_users]
    intro answer before after
    refine ⟨trivial, ?_⟩
    rcases answer with f | _ | u
    · exact .inr ⟨.error f, before, after, rfl, rfl⟩
    · exact .inr ⟨.ok none, before, after, rfl, rfl⟩
    · exact .inr ⟨.ok (some u), before, after, rfl, rfl⟩

/-- By itself, getting a user finds the live row with the key. -/
theorem Accounts.runOn_get {o : Surroundings} {s : Store} {id : Id} (key : id ≠ 0) :
    (Accounts.get id).runOn o s = ((s.liveUser? id).elim (.error (.rejected .userNotFound)) fun row =>
      .ok row.refreshPasswordSet, s) := by
  unfold Accounts.get
  simp only [if_neg key]
  show (Service.users Accounts.getContext (.getById id) >>= _ : Service User).runOn o s = _
  rw [Service.runOn_bind, Service.runOn_users]
  show (Service.orReject .userNotFound ((s.liveUser? id).map User.refreshPasswordSet)).runOn o s = _
  rw [Service.runOn_orReject]
  cases s.liveUser? id <;> rfl

/-- The exchanges of a verification that has accepted a session and its user. -/
inductive Sessions.Accepted (x : Session) (u : User) : List (Exchange Store) → Prop where
  | intro (id : Id) (now : Instant) (b₁ a₁ b₂ a₂ b₃ a₃ : Store) :
      Accepted x u [⟨.sessions (.getById id), .ok (some x), b₁, a₁⟩, ⟨.clock, now, b₂, a₂⟩,
        ⟨.users (.getById x.userId), .ok (some u), b₃, a₃⟩]

/-- **A verification that accepts** has found the session, read the clock, and found the user. -/
theorem Sessions.verify_passes (authorization : String) :
    (Sessions.verify h r authorization).Passes notes
      (Given fun past' p => ∃ own, past' = past ++ own ∧ Sessions.Accepted p.1 p.2 own) past := by
  unfold Sessions.verify
  rw [Service.passes_bind]
  cases Sessions.readAuthorization authorization with
  | error rejection => exact trivial
  | ok parts =>
    obtain ⟨id, token⟩ := parts
    show Service.Passes _ _ (Sessions.get id >>= _) _
    rw [Service.passes_bind, Sessions.get, Service.passes_bind, Service.passes_sessions]
    intro answer b₁ a₁
    refine ⟨trivial, ?_⟩
    rcases answer with f | _ | x
    · exact trivial
    · exact trivial
    -- the token, and then the time
    show Service.Passes _ _ (if (!x.hasToken h token) = true then _ else _) _
    by_cases htoken : (!x.hasToken h token) = true
    · rw [if_pos htoken]
      exact trivial
    rw [if_neg htoken]
    show Service.Passes _ _ (Service.perform .clock >>= _) _
    rw [Service.passes_bind, Service.passes_perform]
    intro now b₂ a₂
    refine ⟨trivial, ?_⟩
    show Service.Passes _ _ (if x.isExpired now = true then _ else _) _
    by_cases hexpired : x.isExpired now = true
    · rw [if_pos hexpired]
      exact trivial
    rw [if_neg hexpired]
    show Service.Passes _ _ (Service.users Sessions.verifyContext (.getById x.userId) >>= _) _
    rw [Service.passes_bind, Service.passes_users]
    intro answer b₃ a₃
    refine ⟨trivial, ?_⟩
    rcases answer with f | _ | u
    · exact trivial
    · exact fun _ _ _ => ⟨trivial, trivial⟩
    · refine ⟨_, ?_, .intro id now b₁ a₁ b₂ a₂ b₃ a₃⟩
      simp [notes, Watch.history]

end Passes

/-! ### Among others -/

section Task

variable {h : Hasher} {T : Trace Store} {c : Crowd Store (Request × Job) (Except ServiceFailure Value)}
  {i : Nat} {r : Request}

/-- What getting a user comes back with in a run. -/
theorem Accounts.got_of_finished (run : (service h).Run .nobody T c) {id : Id}
    {value : Except ServiceFailure Value} (hi : c.Finished i (r, .getUser id) value) {x : Exchange Store}
    (hx : (i, x) ∈ T) :
    ∃ answer before after, x = ⟨.users (.getById id), answer, before, after⟩ ∧
      value = (Accounts.got answer).map Value.user := by
  obtain ⟨result, rfl, hpost⟩ := Service.result_of_finished run hi rfl (Accounts.get_passes id)
  rw [notes, Trace.noted_history] at hpost
  have hown := Trace.mem_own.2 hx
  obtain ⟨-, hnil, -⟩ | ⟨answer, before, after, hsingle, rfl⟩ := hpost
  · rw [hnil] at hown
    cases hown
  · rw [hsingle] at hown
    exact ⟨answer, before, after, List.mem_singleton.1 hown, rfl⟩

/-- What a verification has exchanged in a run when it has accepted a session. -/
theorem Sessions.accepted_of_finished (run : (service h).Run .nobody T c) {authorization : String}
    {x : Session} {u : User} (hi : c.Finished i (r, .verify authorization) (.ok (.verified x u))) :
    Accepted x u (T.own i) := by
  obtain ⟨result, hvalue, hpost⟩ := Service.result_of_finished (f := fun p => Value.verified p.1 p.2) run hi
    rfl (verify_passes authorization)
  rw [notes, Trace.noted_history] at hpost
  rcases result with f | p
  · cases hvalue
  · cases hvalue
    obtain ⟨own, hown, haccepted⟩ := hpost
    rwa [hown]

end Task

end Turnstile
