import Turnstile.Time.Instant

namespace Turnstile

/-!
# Calendar and clock

The date and the time of day of an instant, and the texts made from them.

* `Date.ofDays` counts days in eras of 400 years that start on March 1st, so that the leap day is the
  last day of its year.
* `Instant.text` is the ISO 8601 form with a fraction of 0, 3, 6 or 9 digits, the fewest that are exact,
  before a suffix that names the zone. Years outside 0 to 9999 carry a sign.
-/

/-- A day of the proleptic Gregorian calendar. -/
structure Date where
  year : Int
  month : Nat
  day : Nat
  deriving DecidableEq, Repr

/-- The date so many days after 1970-01-01. -/
def Date.ofDays (days : Int) : Date :=
  let z := days + 719468
  let era := z / 146097
  let dayOfEra := (z % 146097).toNat
  let yearOfEra := (dayOfEra - dayOfEra / 1460 + dayOfEra / 36524 - dayOfEra / 146096) / 365
  let dayOfYear := dayOfEra - (365 * yearOfEra + yearOfEra / 4 - yearOfEra / 100)
  let monthFromMarch := (5 * dayOfYear + 2) / 153
  let day := dayOfYear - (153 * monthFromMarch + 2) / 5 + 1
  let month := if monthFromMarch < 10 then monthFromMarch + 3 else monthFromMarch - 9
  let year := era * 400 + (yearOfEra : Int) + (if month ≤ 2 then 1 else 0)
  ⟨year, month, day⟩

/-! ### Texts -/

/-- A number with zeros in front up to a given width. -/
def padded (width n : Nat) : String :=
  let digits := toString n
  String.ofList (List.replicate (width - digits.length) '0') ++ digits

/-- A year: four digits, and a sign if it lies outside 0 to 9999. -/
def yearText (y : Int) : String :=
  if 0 ≤ y ∧ y ≤ 9999 then padded 4 y.toNat
  else (if y < 0 then "-" else "+") ++ padded 4 y.natAbs

/-- The fraction of a second with its point: nothing, or the fewest of 3, 6 or 9 digits that are exact. -/
def fractionText (nanos : Nat) : String :=
  if nanos = 0 then ""
  else if nanos % 1000000 = 0 then "." ++ padded 3 (nanos / 1000000)
  else if nanos % 1000 = 0 then "." ++ padded 6 (nanos / 1000)
  else "." ++ padded 9 nanos

/-- Date and time of day of an instant, followed by a zone suffix. -/
def Instant.text (t : Instant) (zone : String) : String :=
  let date := Date.ofDays (t.seconds / daySeconds)
  let ofDay := (t.seconds % daySeconds).toNat
  let second := ofDay % 60 + t.nanos / 1000000000
  yearText date.year ++ "-" ++ padded 2 date.month ++ "-" ++ padded 2 date.day ++ "T"
    ++ padded 2 (ofDay / 3600) ++ ":" ++ padded 2 (ofDay / 60 % 60) ++ ":" ++ padded 2 second
    ++ fractionText (t.nanos % 1000000000) ++ zone

/-- The form with a numeric offset, `…+00:00`. -/
def Instant.offsetText (t : Instant) : String := t.text "+00:00"

/-- The form with the letter `Z`. -/
def Instant.zuluText (t : Instant) : String := t.text "Z"

example : (Instant.mk 951782400 0).zuluText = "2000-02-29T00:00:00Z" := by decide +kernel

example : (Instant.mk 59 1500000000).offsetText = "1970-01-01T00:00:60.500+00:00" := by
  decide +kernel

end Turnstile
