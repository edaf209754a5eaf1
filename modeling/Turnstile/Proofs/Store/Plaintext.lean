import Turnstile.Proofs.Store.Rows

namespace Turnstile

/-!
# Plain text in the memory store

The password on a user's record and the token on a session's stay with the caller.

* `UserCall.withPlain` and `SessionCall.withPlain` put another plain text on the record that a call brings.
* `Store.callUsers_withPlain` and `Store.callSessions_withPlain`: to the store it is the same call. What it
  gives is the same, too, but for the plain text that the record brought.
* `Store.Plainless` holds of stores without plain text, and every call keeps it so (`callUsers_plainless`,
  `callSessions_plainless`).
-/

namespace UserCall

/-- The call, with another plain password on the record that it brings. -/
def withPlain (plain : Option String) : UserCall → UserCall
  | create u => create { u with password := plain }
  | save u => save { u with password := plain }
  | delete u => delete { u with password := plain }
  | getById id => getById id
  | getByEmail email => getByEmail email

/-- What such a call gives: the plain password is the one that it brought. -/
def resultWithPlain (plain : Option String) : (call : UserCall) → call.Result → (call.withPlain plain).Result
  | create _, u | save _, u | delete _, u => { u with password := plain }
  | getById _, found | getByEmail _, found => found

end UserCall

namespace SessionCall

/-- The call, with another token on the record that it brings. -/
def withPlain (plain : Option String) : SessionCall → SessionCall
  | create x => create { x with token := plain }
  | delete x => delete { x with token := plain }
  | getById id => getById id
  | listActive userId now => listActive userId now

/-- What such a call gives: the token is the one that it brought. -/
def resultWithPlain (plain : Option String) :
    (call : SessionCall) → call.Result → (call.withPlain plain).Result
  | create _, x | delete _, x => { x with token := plain }
  | getById _, found => found
  | listActive .., found => found

end SessionCall

namespace Store

/-! ### Calls that differ in plain text -/

variable (s : Store) (plain : Option String)

theorem createUser_withPlain {call call' : UserCall} (hcall : call'.context = call.context) (u : User) :
    s.createUser call' { u with password := plain }
      = ((s.createUser call u).1.map fun v => { v with password := plain }, (s.createUser call u).2) := by
  rw [createUser_eq, createUser_eq, emailViolation, emailViolation, hcall]
  by_cases taken : s.emailTaken u.email 0 = true
  · rw [if_pos taken, if_pos taken]
    rfl
  · rw [if_neg taken, if_neg taken]
    rfl

theorem saveUser_withPlain {call call' : UserCall} (hcall : call'.context = call.context) (u : User) :
    s.saveUser call' { u with password := plain }
      = ((s.saveUser call u).1.map fun v => { v with password := plain }, (s.saveUser call u).2) := by
  unfold saveUser
  rw [emailViolation, emailViolation, hcall]
  by_cases taken : s.emailTaken u.email u.id = true
  · rw [if_pos taken, if_pos taken]
    rfl
  · rw [if_neg taken, if_neg taken]
    cases s.liveUser? u.id <;> rfl

/-- **To the store of users a plain password makes no difference.** -/
theorem callUsers_withPlain (call : UserCall) :
    s.callUsers (call.withPlain plain)
      = ((s.callUsers call).1.map (call.resultWithPlain plain), (s.callUsers call).2) := by
  cases call with
  | create u => exact s.createUser_withPlain plain rfl u
  | save u =>
    by_cases key : u.id = 0
    · simp only [UserCall.withPlain, callUsers, if_pos key]
      exact s.createUser_withPlain plain rfl u
    · simp only [UserCall.withPlain, callUsers, if_neg key]
      exact s.saveUser_withPlain plain rfl u
  | delete u =>
    simp only [UserCall.withPlain, callUsers, deleteUser]
    cases s.liveUser? u.id <;> rfl
  | getById id => rfl
  | getByEmail email => rfl

/-- **To the store of sessions a token makes no difference.** -/
theorem callSessions_withPlain (call : SessionCall) :
    s.callSessions (call.withPlain plain)
      = ((s.callSessions call).1.map (call.resultWithPlain plain), (s.callSessions call).2) := by
  cases call with
  | create x =>
    simp only [SessionCall.withPlain, callSessions, createSession]
    by_cases taken : s.sessions.any (·.tokenHash == x.tokenHash) = true
    · rw [if_pos taken, if_pos taken]
      rfl
    · rw [if_neg taken, if_neg taken]
      rfl
  | delete x =>
    simp only [SessionCall.withPlain, callSessions, deleteSession]
    cases s.liveSession? x.id <;> rfl
  | getById id => rfl
  | listActive userId now => rfl

/-! ### Stores without plain text -/

/-- No row has plain text. -/
structure Plainless (s : Store) : Prop where
  users : ∀ u ∈ s.users, u.password = none
  sessions : ∀ x ∈ s.sessions, x.token = none

theorem empty_plainless : empty.Plainless :=
  ⟨fun _ h => absurd h List.not_mem_nil, fun _ h => absurd h List.not_mem_nil⟩

variable {s} {s' : Store} {e : Effect}

/-- **What is written has no plain text.** -/
theorem Writes.plainless (h : s.Writes e s') (plainless : s.Plainless) : s'.Plainless := by
  cases h with
  | insertUser call u hcall free =>
    refine ⟨fun v hv => ?_, plainless.sessions⟩
    rcases List.mem_append.1 hv with hv | hv
    · exact plainless.users v hv
    · rw [List.mem_singleton.1 hv, keptUser]
  | replaceUser u row key free live =>
    refine ⟨fun v hv => ?_, plainless.sessions⟩
    rcases mem_changeFirst hv with hv | ⟨w, -, -, rfl⟩
    · exact plainless.users v hv
    · rw [keptUser]
  | markUser u row live =>
    refine ⟨fun v hv => ?_, plainless.sessions⟩
    rcases mem_changeFirst hv with hv | ⟨w, hw, -, rfl⟩
    · exact plainless.users v hv
    · exact plainless.users w hw
  | insertSession x fresh =>
    refine ⟨plainless.users, fun y hy => ?_⟩
    rcases List.mem_append.1 hy with hy | hy
    · exact plainless.sessions y hy
    · rw [List.mem_singleton.1 hy, keptSession]
  | markSession x row live =>
    refine ⟨plainless.users, fun y hy => ?_⟩
    rcases mem_changeFirst hy with hy | ⟨z, hz, -, rfl⟩
    · exact plainless.sessions y hy
    · exact plainless.sessions z hz

theorem callUsers_plainless (plainless : s.Plainless) (call : UserCall) :
    (s.callUsers call).2.Plainless := by
  rcases s.callUsers_cases call with hsame | ⟨-, writes⟩
  · rwa [hsame]
  · exact writes.plainless plainless

theorem callSessions_plainless (plainless : s.Plainless) (call : SessionCall) :
    (s.callSessions call).2.Plainless := by
  rcases s.callSessions_cases call with hsame | ⟨-, writes⟩
  · rwa [hsame]
  · exact writes.plainless plainless

/-! ### Lookups -/

namespace Plainless

variable (plainless : s.Plainless)

include plainless

theorem getById {id : Id} {u : User} (found : (s.callUsers (.getById id)).1 = .ok (some u)) :
    u.password = none := by
  obtain ⟨row, hrow, rfl⟩ := Option.map_eq_some_iff.1 (Except.ok.inj found)
  exact plainless.users row (List.mem_of_find?_eq_some hrow)

theorem getByEmail {email : String} {u : User}
    (found : (s.callUsers (.getByEmail email)).1 = .ok (some u)) : u.password = none := by
  obtain ⟨row, hrow, rfl⟩ := Option.map_eq_some_iff.1 (Except.ok.inj found)
  exact plainless.users row (List.mem_of_find?_eq_some hrow)

theorem getSession {id : Id} {x : Session} (found : (s.callSessions (.getById id)).1 = .ok (some x)) :
    x.token = none :=
  plainless.sessions x (List.mem_of_find?_eq_some (Except.ok.inj found))

theorem listActive {userId : Id} {now : Instant} {xs : List Session}
    (found : (s.callSessions (.listActive userId now)).1 = .ok xs) : ∀ x ∈ xs, x.token = none := by
  obtain rfl := Except.ok.inj found
  exact fun x hx => plainless.sessions x (List.mem_filter.1 hx).1

end Plainless

end Store

end Turnstile
