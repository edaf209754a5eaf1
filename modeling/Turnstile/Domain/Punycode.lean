namespace Turnstile.Domain.Punycode

/-!
# Punycode

Labels with characters beyond ASCII in letters, digits and hyphens, after RFC 3492. The ASCII characters
come first; then follows, for each other character in the order of code points, the distance from the
one before it, counted in steps of position and code point.
-/

/-! ### Parameters -/

/-- Digits of a distance count to this base. -/
def base : Nat := 36

/-- The least code point that is encoded. -/
def firstCode : Nat := 128

/-- The bias before the first distance. -/
def firstBias : Nat := 72

/-- The digit below which a distance ends, for the digit at `position` (36, 72, …). -/
def threshold (position bias : Nat) : Nat :=
  if position ≤ bias then 1 else if bias + 26 ≤ position then 26 else position - bias

theorem threshold_pos (position bias : Nat) : 1 ≤ threshold position bias := by
  unfold threshold; split
  · omega
  · split <;> omega

theorem threshold_le (position bias : Nat) : threshold position bias ≤ 26 := by
  unfold threshold; split
  · omega
  · split <;> omega

/-- Bring a distance down until it is small; returns the bias. -/
def reduce (delta position : Nat) : Nat :=
  if 455 < delta then reduce (delta / 35) (position + base)
  else position + 36 * delta / (delta + 38)
termination_by delta

/-- The bias behind a distance, with the number of characters placed so far. -/
def adapt (delta count : Nat) (isFirst : Bool) : Nat :=
  let delta := if isFirst then delta / 700 else delta / 2
  reduce (delta + delta / count) 0

/-! ### Digits -/

/-- The letter or digit for a number below 36. -/
def digit (n : Nat) : Char := Char.ofNat (if n < 26 then n + 97 else n + 22)

/-- The number of a letter or digit. -/
def value? (c : Char) : Option Nat :=
  if 'a' ≤ c ∧ c ≤ 'z' then some (c.toNat - 97)
  else if 'A' ≤ c ∧ c ≤ 'Z' then some (c.toNat - 65)
  else if '0' ≤ c ∧ c ≤ '9' then some (c.toNat - 22)
  else none

/-- The digits of a distance. -/
def distanceDigits (delta position bias : Nat) : List Char :=
  let t := threshold position bias
  if delta < t then [digit delta]
  else
    digit (t + (delta - t) % (base - t))
      :: distanceDigits ((delta - t) / (base - t)) (position + base) bias
termination_by delta
decreasing_by
  have h₁ := threshold_pos position bias
  have h₂ := threshold_le position bias
  unfold base
  exact Nat.lt_of_le_of_lt (Nat.div_le_self _ _) (by omega)

/-! ### Writing -/

/-- What is known between two characters. -/
structure Writer where
  written : List Char
  code : Nat
  delta : Nat
  bias : Nat
  count : Nat

/-- Write the distances of all characters with code point `m`. -/
def Writer.put (chars : List Char) (basic : Nat) (w : Writer) (m : Nat) : Writer :=
  let start := { w with code := m + 1, delta := w.delta + (m - w.code) * (w.count + 1) }
  let done := chars.foldl
    (fun w c =>
      if c.toNat < m then { w with delta := w.delta + 1 }
      else if c.toNat = m then
        { w with
          written := w.written ++ distanceDigits w.delta base w.bias
          delta := 0
          bias := adapt w.delta (w.count + 1) (w.count == basic)
          count := w.count + 1 }
      else w)
    start
  { done with delta := done.delta + 1 }

/-- The code points that are encoded, in order and without repetition. -/
def codes (chars : List Char) : List Nat :=
  ((chars.map Char.toNat).filter (firstCode ≤ ·)).mergeSort.eraseDups

/-- The ASCII form of a label. -/
def encode (chars : List Char) : List Char :=
  let basic := chars.filter fun c => c.toNat < firstCode
  let start : Writer := ⟨[], firstCode, 0, firstBias, basic.length⟩
  let done := (codes chars).foldl (Writer.put chars basic.length) start
  (if basic.isEmpty then [] else basic ++ ['-']) ++ done.written

/-! ### Reading -/

/-- What is known between two digits: the characters so far, where the last distance led, the distance
    being read with the weight and position of its next digit, and the bias. -/
structure Reader where
  chars : List Char
  code : Nat
  start : Nat
  delta : Nat
  weight : Nat
  position : Nat
  bias : Nat

/-- The largest code point. -/
def codeLimit : Nat := 0x10FFFF

/-- Place the character at the end of a distance. -/
def Reader.place (r : Reader) : Option Reader :=
  let count := r.chars.length + 1
  let code := r.code + r.delta / count
  let index := r.delta % count
  if code ≤ codeLimit ∧ ¬(0xD800 ≤ code ∧ code ≤ 0xDFFF) then
    some {
      chars := r.chars.take index ++ Char.ofNat code :: r.chars.drop index
      code, start := index + 1, delta := index + 1, weight := 1, position := base
      bias := adapt (r.delta - r.start) count (r.start == 0) }
  else none

/-- Read one digit. -/
def Reader.push (r : Reader) (c : Char) : Option Reader := do
  let d ← value? c
  let t := threshold r.position r.bias
  let r := { r with delta := r.delta + d * r.weight }
  if d < t then r.place
  else some { r with weight := r.weight * (base - t), position := r.position + base }

/-- The ASCII characters and the digits of a label: the last hyphen parts them unless it comes first. -/
def parts (cs : List Char) : List Char × List Char :=
  match cs.reverse.dropWhile (· != '-') with
  | [] | [_] => ([], cs)
  | _ :: before => (before.reverse, (cs.reverse.takeWhile (· != '-')).reverse)

/-- The label of an ASCII form. -/
def decode (cs : List Char) : Option (List Char) := do
  let (basic, digits) := parts cs
  let r ← digits.foldlM Reader.push ⟨basic, firstCode, 0, 0, 1, base, firstBias⟩
  if r.weight = 1 then return r.chars else none

example : encode "mañana".toList = "maana-pta".toList := by decide +kernel

example : decode "maana-pta".toList = some "mañana".toList := by decide +kernel

end Turnstile.Domain.Punycode
