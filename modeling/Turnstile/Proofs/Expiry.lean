import Turnstile.Expiry

namespace Turnstile

/-!
# Fourteen days to the nanosecond

Instants are pairs, and so is the expiry of a session; what callers count in is time that has passed. For
readings of the clock that tell no leap second the two agree: `Expiry.not_isExpired_iff` says that a session
is not expired up to and including the nanosecond that lies fourteen days behind its opening.
-/

namespace Instant

/-- The reading is not one of a leap second. -/
def Ordinary (t : Instant) : Prop := t.nanos < 1000000000

instance (t : Instant) : Decidable t.Ordinary := inferInstanceAs (Decidable (t.nanos < 1000000000))

/-- Nanoseconds since 1970-01-01T00:00:00 UTC. -/
def elapsed (t : Instant) : Int := t.seconds * 1000000000 + t.nanos

/-- Of ordinary readings, the later one is the one behind which more time has passed. -/
theorem lt_iff_elapsed {a b : Instant} (ha : a.Ordinary) (hb : b.Ordinary) :
    a < b ↔ a.elapsed < b.elapsed := by
  unfold Ordinary at ha hb
  rw [lt_def, elapsed, elapsed]
  omega

/-- Moving an ordinary instant by days keeps it ordinary and lets as much time pass. -/
theorem addDays?_eq_some {t later : Instant} {n : Nat} (ht : t.Ordinary)
    (h : t.addDays? n = some later) :
    later.Ordinary ∧ later.elapsed = t.elapsed + n * 86400 * 1000000000 := by
  unfold Ordinary at ht
  have hlater : t.addSeconds (n * 86400) = later := by
    rw [addDays?] at h
    split at h
    · exact Option.some.inj h
    · cases h
  have hnanos : later.nanos = t.nanos := by
    rw [← hlater, addSeconds]
    show (if n * 86400 = 0 then t.nanos else t.nanos % 1000000000) = t.nanos
    split
    · rfl
    · exact Nat.mod_eq_of_lt ht
  have hseconds : later.seconds = t.seconds + n * 86400 := by
    rw [← hlater, addSeconds]
    exact congrArg (t.seconds + ·) (Int.natCast_mul n 86400)
  refine ⟨?_, ?_⟩
  · unfold Ordinary
    rwa [hnanos]
  · rw [elapsed, elapsed, hnanos, hseconds]
    omega

end Instant

namespace Expiry

/-- How long a session runs, in nanoseconds. -/
def lifetime : Int := lifetimeDays * 86400 * 1000000000

/-- **The boundary.** A session opened at an instant is not expired exactly as long as no more than its
    lifetime has passed since. -/
theorem not_isExpired_iff {opened now expireAt : Instant} (hopened : opened.Ordinary)
    (hnow : now.Ordinary) (h : compute? opened = some expireAt) :
    isExpired (some expireAt) now = false ↔ now.elapsed ≤ opened.elapsed + lifetime := by
  obtain ⟨hexpire, hpassed⟩ := Instant.addDays?_eq_some hopened h
  have hlifetime : expireAt.elapsed = opened.elapsed + lifetime := hpassed
  rw [isExpired, decide_eq_false_iff_not, Instant.lt_iff_elapsed hexpire hnow, hlifetime]
  omega

example : isExpired (compute? ⟨0, 0⟩) ⟨1209600, 0⟩ = false ∧
    isExpired (compute? ⟨0, 0⟩) ⟨1209600, 1⟩ = true := by decide

/-- What is active was active before. -/
theorem isActive_of_le {expireAt : Option Instant} {now later : Instant} (h : isActive expireAt later = true)
    (hle : now ≤ later) : isActive expireAt now = true := by
  cases expireAt with
  | none => exact h
  | some t => exact decide_eq_true (Instant.lt_of_le_of_lt hle (of_decide_eq_true h))

end Expiry

end Turnstile
