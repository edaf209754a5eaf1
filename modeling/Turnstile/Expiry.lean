import Turnstile.Time.Instant

namespace Turnstile.Expiry

/-!
# Expiry of sessions

A session runs for fourteen days. At the exact instant of its expiry it is neither expired nor active;
a session without expiry is never either.
-/

/-- Days that a session runs. -/
def lifetimeDays : Nat := 14

/-- The expiry of a session opened at an instant, if it can be represented. -/
def compute? (now : Instant) : Option Instant := now.addDays? lifetimeDays

/-- Whether the expiry is set and lies before `now`. -/
def isExpired (expireAt : Option Instant) (now : Instant) : Bool :=
  match expireAt with
  | some t => t < now
  | none => false

/-- Whether the expiry is set and lies after `now`. -/
def isActive (expireAt : Option Instant) (now : Instant) : Bool :=
  match expireAt with
  | some t => now < t
  | none => false

end Turnstile.Expiry
