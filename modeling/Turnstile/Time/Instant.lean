namespace Turnstile

/-!
# Instants

A point on the UTC time line: whole seconds since 1970-01-01 and a fraction of up to nine digits. The
fraction of the last second of a minute may run past one second; that is how a leap second is told.

* Instants are ordered by seconds, then by fraction, so a leap second lies before the next minute.
* `Instant.addDays?` moves by whole days within the years that can be represented.
* `Instant.ofUnix?` admits exactly the representable instants.
-/

/-- Seconds since 1970-01-01T00:00:00 UTC and nanoseconds within the second. -/
structure Instant where
  seconds : Int
  nanos : Nat
  deriving DecidableEq, Repr

namespace Instant

/-- 1970-01-01T00:00:00 UTC. -/
def epoch : Instant := ⟨0, 0⟩

instance : Inhabited Instant := ⟨epoch⟩

/-! ### Order -/

instance : LT Instant where
  lt a b := a.seconds < b.seconds ∨ (a.seconds = b.seconds ∧ a.nanos < b.nanos)

instance : LE Instant where
  le a b := ¬ b < a

theorem lt_def {a b : Instant} :
    a < b ↔ a.seconds < b.seconds ∨ (a.seconds = b.seconds ∧ a.nanos < b.nanos) := Iff.rfl

theorem le_def {a b : Instant} : a ≤ b ↔ ¬ b < a := Iff.rfl

instance (a b : Instant) : Decidable (a < b) :=
  inferInstanceAs (Decidable (a.seconds < b.seconds ∨ (a.seconds = b.seconds ∧ a.nanos < b.nanos)))

instance (a b : Instant) : Decidable (a ≤ b) := inferInstanceAs (Decidable (¬ b < a))

theorem lt_irrefl (a : Instant) : ¬ a < a := by
  rw [lt_def]; omega

theorem lt_of_le_of_lt {a b c : Instant} (h : a ≤ b) (k : b < c) : a < c := by
  rw [le_def] at h; rw [lt_def] at *; omega

/-! ### Representable instants -/

/-- The first second of the year -262143. -/
def firstSecond : Int := -8334601228800

/-- The last second of the year 262142. -/
def lastSecond : Int := 8210266876799

/-- The instant so many seconds and nanoseconds after the epoch, if it can be represented: nanoseconds
    reach a second only in the last second of a minute. -/
def ofUnix? (seconds : Int) (nanos : Nat) : Option Instant :=
  if firstSecond ≤ seconds ∧ seconds ≤ lastSecond
      ∧ (nanos < 1000000000 ∨ (nanos < 2000000000 ∧ seconds % 60 = 59)) then
    some ⟨seconds, nanos⟩
  else none

/-! ### Arithmetic -/

/-- Seconds in a day. -/
def daySeconds : Int := 86400

/-- The instant a positive number of seconds later; the fraction of a leap second becomes that of the
    ordinary second before it. -/
def addSeconds (t : Instant) (n : Nat) : Instant :=
  ⟨t.seconds + n, if n = 0 then t.nanos else t.nanos % 1000000000⟩

/-- The instant `n` days later, if it can be represented. -/
def addDays? (t : Instant) (n : Nat) : Option Instant :=
  let later := t.addSeconds (n * 86400)
  if later.seconds ≤ lastSecond then some later else none

end Instant

end Turnstile
