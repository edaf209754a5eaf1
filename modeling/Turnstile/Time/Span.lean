import Turnstile.Time.Calendar

namespace Turnstile

/-!
# Spans of time

How long a transaction may stay open.

* `Span.text` is the form shown to operators: the largest of the units s, ms, µs and ns that leaves a
  whole part, with the exact fraction behind it and no trailing zeros.
* `Span.ticks` rounds up to whole milliseconds, the grain of the timers.
-/

/-- Whole seconds and a fraction of less than one second in nanoseconds. -/
structure Span where
  seconds : Nat
  nanos : Nat
  deriving DecidableEq, Repr

namespace Span

/-- A span of whole seconds. -/
def ofSeconds (n : Nat) : Span := ⟨n, 0⟩

/-- A span of whole milliseconds. -/
def ofMillis (n : Nat) : Span := ⟨n / 1000, n % 1000 * 1000000⟩

/-- The digits of `part`, written with `width` places behind the point and without trailing zeros. -/
def fraction (width part : Nat) : String :=
  let digits := (padded width part).toList.reverse.dropWhile (· == '0')
  if digits.isEmpty then "" else "." ++ String.ofList digits.reverse

/-- The form shown to operators. -/
def text (s : Span) : String :=
  if s.seconds > 0 then toString s.seconds ++ fraction 9 s.nanos ++ "s"
  else if s.nanos ≥ 1000000 then
    toString (s.nanos / 1000000) ++ fraction 6 (s.nanos % 1000000) ++ "ms"
  else if s.nanos ≥ 1000 then toString (s.nanos / 1000) ++ fraction 3 (s.nanos % 1000) ++ "µs"
  else toString s.nanos ++ "ns"

/-- Length in milliseconds, rounded up. -/
def ticks (s : Span) : Nat := s.seconds * 1000 + (s.nanos + 999999) / 1000000

example : (ofMillis 10).text = "10ms" := by decide +kernel

example : (Span.mk 1 1).text = "1.000000001s" := by decide +kernel

example : (Span.mk 0 1500).text = "1.5µs" := by decide +kernel

end Span

end Turnstile
