import Turnstile.Repository

namespace Turnstile.Rehearsal

/-!
# Faults

A rehearsal can make single calls on the database fail, do nothing, or take their time. Faults are queued
for a target and taken one by one, in the order in which they were put in.
-/

/-- What a fault can strike. -/
inductive Target where
  | usersCreate
  | usersSave
  | usersGetById
  | usersGetByEmail
  | usersDelete
  | sessionsCreate
  | sessionsGetById
  | sessionsListActive
  | sessionsDelete
  | backend (operation : Operation)
  | begin
  deriving DecidableEq, Repr

namespace Target

/-- The target that a name means. -/
def ofName? : String → Option Target
  | "users.create" => some usersCreate
  | "users.save" => some usersSave
  | "users.get_by_id" => some usersGetById
  | "users.get_by_email" => some usersGetByEmail
  | "users.delete" => some usersDelete
  | "sessions.create" => some sessionsCreate
  | "sessions.get_by_id" => some sessionsGetById
  | "sessions.list_active" => some sessionsListActive
  | "sessions.delete" => some sessionsDelete
  | "backend.commit" => some (backend .commit)
  | "backend.rollback" => some (backend .rollback)
  | "backend.ping" => some (backend .ping)
  | "source.begin" => some begin
  | _ => none

/-- The name of the target in the failures it meets. -/
def context : Target → String
  | usersCreate => "user repo create"
  | usersSave => "user repo save"
  | usersGetById => "user repo get by id"
  | usersGetByEmail => "user repo get by email"
  | usersDelete => "user repo delete"
  | sessionsCreate => "user session repo create"
  | sessionsGetById => "user session repo get by id"
  | sessionsListActive => "user session repo list active"
  | sessionsDelete => "user session repo delete"
  | backend operation => operation.context
  | begin => beginContext

/-- The target of a call. -/
def ofUserCall : UserCall → Target
  | .create _ => usersCreate
  | .save u => if u.id = 0 then usersCreate else usersSave
  | .getById _ => usersGetById
  | .getByEmail _ => usersGetByEmail
  | .delete _ => usersDelete

/-- The target of a call. -/
def ofSessionCall : SessionCall → Target
  | .create _ => sessionsCreate
  | .getById _ => sessionsGetById
  | .listActive .. => sessionsListActive
  | .delete _ => sessionsDelete

theorem context_ofUserCall (c : UserCall) : (ofUserCall c).context = c.context := by
  cases c with
  | save u => by_cases h : u.id = 0 <;> simp [ofUserCall, UserCall.context, context, h]
  | _ => rfl

theorem context_ofSessionCall (c : SessionCall) : (ofSessionCall c).context = c.context := by
  cases c <;> rfl

end Target

/-- What happens in place of the call. -/
inductive Mischief where
  /-- The call acts as it should. -/
  | none
  /-- The call fails without acting. -/
  | fail (failure : RepositoryFailure)
  /-- The call finds nothing, or does nothing and says that it has. -/
  | idle
  deriving DecidableEq, Repr

/-- What happens in place of the call, and how many milliseconds later it answers. -/
structure Fault where
  mischief : Mischief
  delay : Nat
  deriving DecidableEq, Repr

/-- No fault. -/
def Fault.none : Fault := ⟨.none, 0⟩

/-- The answer of a call that does nothing. -/
def idleUsers : (call : UserCall) → Except RepositoryFailure call.Result
  | .create u | .delete u => .ok u
  | .save u => if u.id = 0 then .ok u else .error (.notFound (UserCall.save u).context)
  | .getById _ | .getByEmail _ => .ok Option.none

/-- The answer of a call that does nothing. -/
def idleSessions : (call : SessionCall) → Except RepositoryFailure call.Result
  | .create s | .delete s => .ok s
  | .getById _ => .ok Option.none
  | .listActive .. => .ok []

/-- Take the first fault queued for a target. -/
def takeFault (target : Target) : List (Target × Fault) → Fault × List (Target × Fault)
  | [] => (.none, [])
  | (t, fault) :: rest =>
    if t = target then (fault, rest)
    else
      let (found, rest) := takeFault target rest
      (found, (t, fault) :: rest)

end Turnstile.Rehearsal
