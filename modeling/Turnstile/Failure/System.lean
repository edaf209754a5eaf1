import Turnstile.Credential.Hash
import Turnstile.Failure.Chain
import Turnstile.Failure.Repository
import Turnstile.Rejection
import Turnstile.Time.Span

namespace Turnstile

/-!
# Failures of the service

* `TransactionFailure`: a transaction could not be begun, used or ended. One that has ended already
  carries the failure it was rolled back with, if any.
* `SystemFailure`: an operation met a failure that its caller can do nothing about.
* `ServiceFailure`: either a rejection, which the caller is told in detail, or a system failure, of
  which the caller learns nothing but that it happened.
-/

open Credential (CredentialError)

/-- What was asked of a transaction. -/
inductive Operation where
  | commit
  | rollback
  | ping
  deriving DecidableEq, Repr

/-- The word for an operation. -/
def Operation.word : Operation → String
  | .commit => "commit"
  | .rollback => "rollback"
  | .ping => "ping"

mutual

/-- The failure of an operation on a transaction. -/
inductive TransactionFailure where
  | alreadyEnded (operation : Operation) (cause : Option SystemFailure)
  | timeout (after : Span)
  | backend (operation : Operation) (source : RepositoryFailure)
  | notBegun (source : RepositoryFailure)

/-- A failure that is reported to operators. -/
inductive SystemFailure where
  | repository (context : String) (source : RepositoryFailure)
  | credential (context : String) (source : CredentialError)
  | invariant (context : String) (message : String)
  | transaction (failure : TransactionFailure)

end

/-! ### Transaction failures -/

namespace TransactionFailure

/-- The wording of a failure. -/
def message : TransactionFailure → String
  | alreadyEnded operation _ =>
    "service transaction " ++ operation.word ++ " error: transaction already ended"
  | timeout after =>
    "service transaction timeout error: transaction timed out after: " ++ after.text
  | backend operation source =>
    "service transaction " ++ operation.word ++ " error: " ++ source.message
  | notBegun source => "service transaction begin error: " ++ source.message

/-- Whether the transaction had ended already. -/
def isAlreadyEnded : TransactionFailure → Bool
  | alreadyEnded .. => true
  | _ => false

/-- The failure recorded by the rollback that ended the transaction. -/
def cause? : TransactionFailure → Option SystemFailure
  | alreadyEnded _ cause => cause
  | _ => none

end TransactionFailure

/-- The wording of a failure. A transaction's failure keeps its own. -/
def SystemFailure.message : SystemFailure → String
  | repository context source => context ++ ": " ++ source.message
  | credential context source => context ++ ": " ++ source.message
  | invariant context message => context ++ ": " ++ message
  | transaction failure => failure.message

mutual

/-- The messages beneath a transaction's failure. -/
def TransactionFailure.causes : TransactionFailure → List String
  | .alreadyEnded _ none => []
  | .alreadyEnded _ (some cause) => cause.message :: cause.causes
  | .timeout _ => []
  | .backend _ source => source.message :: source.causes
  | .notBegun source => source.message :: source.causes

/-- The messages beneath a system failure. -/
def SystemFailure.causes : SystemFailure → List String
  | .repository _ source => source.message :: source.causes
  | .credential _ source => [source.message]
  | .invariant .. => []
  | .transaction failure => failure.causes

end

mutual

/-- Whether the deadline ended the transaction, directly or as the recorded cause. -/
def TransactionFailure.isTimeout : TransactionFailure → Bool
  | .timeout _ => true
  | .alreadyEnded _ (some cause) => cause.isTimeout
  | _ => false

/-- Whether the deadline of a transaction is behind the failure. -/
def SystemFailure.isTimeout : SystemFailure → Bool
  | .transaction failure => failure.isTimeout
  | _ => false

end

/-- A transaction's failure as operators are told it. -/
def TransactionFailure.chain (f : TransactionFailure) : String := chainText f.message f.causes

/-- A system failure as operators are told it. -/
def SystemFailure.chain (f : SystemFailure) : String := chainText f.message f.causes

/-- The failure of a repository operation as operators are told it. -/
def RepositoryFailure.chain (f : RepositoryFailure) : String := chainText f.message f.causes

/-- The repository's failure underneath. -/
def SystemFailure.repository? : SystemFailure → Option RepositoryFailure
  | .repository _ source => some source
  | _ => none

/-! ### Service failures -/

/-- Why a request did not succeed. -/
inductive ServiceFailure where
  | rejected (rejection : Rejection)
  | system (failure : SystemFailure)

namespace ServiceFailure

/-- The wording for operators. -/
def message : ServiceFailure → String
  | rejected rejection => "validation error: " ++ rejection.code
  | system failure => failure.message

/-- The rejection that the caller is answered with. -/
def answer : ServiceFailure → Rejection
  | rejected rejection => rejection
  | system _ => .internalServerError

/-- What the caller is shown. -/
def localize (f : ServiceFailure) (l : Language) : Localized := f.answer.localize l

/-- The HTTP status to answer with. -/
def status (f : ServiceFailure) : Nat := f.answer.status

/-- The failure of a transaction. -/
def transaction (f : TransactionFailure) : ServiceFailure := .system (.transaction f)

/-- The failure of a repository operation met in a context. -/
def repository (context : String) (source : RepositoryFailure) : ServiceFailure :=
  .system (.repository context source)

/-- The failure to hash, met in a context. -/
def credential (context : String) (source : CredentialError) : ServiceFailure :=
  .system (.credential context source)

end ServiceFailure

end Turnstile
