import Turnstile.Failure.System
import Turnstile.Session
import Turnstile.User

namespace Turnstile

/-!
# Calls on the database

What can be asked of the tables of users and sessions within one transaction. Lookups see only rows that
have not been deleted, and deleting only marks a row.

* `UserCall` and `SessionCall` list the calls, with the types of their results.
* `context` names a call in the failures it meets.
-/

/-- A call on the table of users. Calls that take a user answer with the user as it is afterwards. -/
inductive UserCall where
  | create (user : User)
  | save (user : User)
  | getById (id : Id)
  | getByEmail (email : String)
  | delete (user : User)

/-- What a call on the table of users gives. -/
@[reducible] def UserCall.Result : UserCall → Type
  | create _ | save _ | delete _ => User
  | getById _ | getByEmail _ => Option User

/-- A call on the table of sessions. -/
inductive SessionCall where
  | create (session : Session)
  | getById (id : Id)
  | listActive (userId : Id) (now : Instant)
  | delete (session : Session)

/-- What a call on the table of sessions gives. -/
@[reducible] def SessionCall.Result : SessionCall → Type
  | create _ | delete _ => Session
  | getById _ => Option Session
  | listActive .. => List Session

/-! ### Names in failures -/

/-- The name of a call. Saving a user without a key is creating one. -/
def UserCall.context : UserCall → String
  | create _ => "user repo create"
  | save user => if user.id = 0 then "user repo create" else "user repo save"
  | getById _ => "user repo get by id"
  | getByEmail _ => "user repo get by email"
  | delete _ => "user repo delete"

/-- The name of a call. -/
def SessionCall.context : SessionCall → String
  | create _ => "user session repo create"
  | getById _ => "user session repo get by id"
  | listActive .. => "user session repo list active"
  | delete _ => "user session repo delete"

/-- The name of opening a transaction. -/
def beginContext : String := "transaction begin"

/-- The name of an operation on a transaction. -/
def Operation.context (o : Operation) : String := "transaction " ++ o.word

end Turnstile
