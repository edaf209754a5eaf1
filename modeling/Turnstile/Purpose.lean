import Turnstile.Text.Blank

namespace Turnstile

/-!
# Purposes of sessions

Why a session was opened. Impersonation is for administrators and is never issued by signing in.

* `Purpose.parse` reads a purpose, ignoring blanks around it and the case of ASCII letters.
* `Purpose.isIssuable` says which purposes a caller may ask for.
-/

/-- Why a session was opened. -/
inductive Purpose where
  | sessionCreate
  | passwordReset
  | impersonate
  deriving DecidableEq, Repr

/-- Why a text names no purpose. -/
inductive PurposeFault where
  | missing
  | unknown (text : String)
  deriving DecidableEq, Repr

/-- The wording of a fault. -/
def PurposeFault.message : PurposeFault → String
  | .missing => "session purpose is missing"
  | .unknown text => "unknown session purpose: " ++ text

namespace Purpose

/-- The stored name of a purpose. -/
def name : Purpose → String
  | sessionCreate => "SESSION_CREATE"
  | passwordReset => "PASSWORD_RESET"
  | impersonate => "IMPERSONATE"

/-- The name shown to operators. -/
def label : Purpose → String
  | sessionCreate => "SessionCreate"
  | passwordReset => "PasswordReset"
  | impersonate => "Impersonate"

/-- The purpose with exactly this name. -/
def ofName? : String → Option Purpose
  | "SESSION_CREATE" => some sessionCreate
  | "PASSWORD_RESET" => some passwordReset
  | "IMPERSONATE" => some impersonate
  | _ => none

/-- The purpose named by a text. -/
def parse (raw : String) : Except PurposeFault Purpose :=
  let text := (Text.trim raw).toUpper
  if text = "" then .error .missing
  else
    match ofName? text with
    | some purpose => .ok purpose
    | none => .error (.unknown text)

/-- Whether signing in may ask for the purpose. -/
def isIssuable : Purpose → Bool
  | sessionCreate | passwordReset => true
  | impersonate => false

theorem ofName?_name (p : Purpose) : ofName? p.name = some p := by cases p <;> rfl

end Purpose

end Turnstile
