import Turnstile.Text.Compose.Table
import Turnstile.Text.Packed

namespace Turnstile.Text

/-!
# Composed characters

A letter with marks can be written as one character or as several. `compose` gives the composed form:
everything is taken apart, marks are put in the order of their combining classes, and what can be put
together is.
-/

/-! ### Taking apart -/

/-- Composed characters and their two parts. -/
def composites : List (Char × Char × Char) :=
  (Packed.images compositeText).filterMap fun
    | (c, [a, b]) => some (c, a, b)
    | _ => none

/-- Combining classes and their ranges. -/
def classes : List (Nat × List (Nat × Nat)) := classTexts.map fun p => (p.1, Packed.ranges p.2)

/-- The combining class of a character; zero if it does not combine. -/
def combiningClass (c : Char) : Nat :=
  if c.toNat < 0x300 then 0
  else
    match classes.find? fun p => inRanges p.2 c with
    | some p => p.1
    | none => 0

/-- The first of the composed Korean syllables. -/
def firstSyllable : Nat := 0xAC00

/-- How many Korean syllables there are. -/
def syllableCount : Nat := 11172

/-- The letters of a Korean syllable: a first, a middle and perhaps a last one. -/
def syllableParts (c : Char) : List Char :=
  let n := c.toNat - firstSyllable
  let parts := [Char.ofNat (0x1100 + n / 588), Char.ofNat (0x1161 + n % 588 / 28)]
  if n % 28 = 0 then parts else parts ++ [Char.ofNat (0x11A7 + n % 28)]

/-- Whether the character is a Korean syllable. -/
def isSyllable (c : Char) : Bool :=
  firstSyllable ≤ c.toNat && c.toNat < firstSyllable + syllableCount

/-- The parts of a character; composed characters nest at most `depth` deep. -/
def parts : Nat → Char → List Char
  | 0, c => [c]
  | depth + 1, c =>
    if isSyllable c then syllableParts c
    else if c.toNat < 0xC0 then [c]
    else
      match composites.find? (·.1 == c) with
      | some (_, a, b) => parts depth a ++ [b]
      | none => [c]

/-- A text taken apart. -/
def decompose (cs : List Char) : List Char := cs.flatMap (parts 4)

/-! ### Order of marks -/

/-- Put a mark behind the marks whose class is not greater. `run` is the current run of marks, the last
    first. -/
def insertMark (m : Nat × Char) : List (Nat × Char) → List (Nat × Char)
  | [] => [m]
  | p :: ps => if p.1 ≤ m.1 then m :: p :: ps else p :: insertMark m ps

/-- Order each run of marks; `run` holds the marks since the last other character, the last first. -/
def orderFrom (run : List (Nat × Char)) : List Char → List (Nat × Char)
  | [] => run.reverse
  | c :: cs =>
    let rank := combiningClass c
    if rank = 0 then run.reverse ++ (0, c) :: orderFrom [] cs
    else orderFrom (insertMark (rank, c) run) cs

/-! ### Putting together -/

/-- The Korean syllable of two parts. -/
def composeSyllable? (a b : Char) : Option Char :=
  let x := a.toNat
  let y := b.toNat
  if 0x1100 ≤ x ∧ x < 0x1113 ∧ 0x1161 ≤ y ∧ y < 0x1176 then
    some (Char.ofNat (firstSyllable + ((x - 0x1100) * 21 + (y - 0x1161)) * 28))
  else if isSyllable a ∧ (x - firstSyllable) % 28 = 0 ∧ 0x11A8 ≤ y ∧ y < 0x11C3 then
    some (Char.ofNat (x + (y - 0x11A7)))
  else none

/-- The character composed of two others. -/
def composePair? (a b : Char) : Option Char :=
  match composeSyllable? a b with
  | some c => some c
  | none => (composites.find? fun p => p.2.1 == a && p.2.2 == b).map (·.1)

/-- Compose from a starter and the characters kept behind it so far, the last first. A mark reaches the
    starter unless one of its own class or a greater one stands between. -/
def composeFrom (starter : Char) (kept : List (Nat × Char)) : List (Nat × Char) → List Char
  | [] => starter :: kept.reverse.map (·.2)
  | (rank, c) :: cs =>
    let reaches := match kept with
      | [] => true
      | (last, _) :: _ => last < rank
    match if reaches then composePair? starter c else none with
    | some d => composeFrom d kept cs
    | none =>
      if rank = 0 then starter :: kept.reverse.map (·.2) ++ composeFrom c [] cs
      else composeFrom starter ((rank, c) :: kept) cs

/-- Compose a text that has been taken apart and ordered. Marks at its front have nothing to join. -/
def recompose (ps : List (Nat × Char)) : List Char :=
  let marks := ps.takeWhile (·.1 != 0)
  match ps.dropWhile (·.1 != 0) with
  | [] => marks.map (·.2)
  | (_, c) :: rest => marks.map (·.2) ++ composeFrom c [] rest

/-- The composed form of a text. -/
def compose (cs : List Char) : List Char := recompose (orderFrom [] (decompose cs))

end Turnstile.Text
