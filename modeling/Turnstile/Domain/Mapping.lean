import Turnstile.Domain.Mapping.Table
import Turnstile.Text.Compose

namespace Turnstile.Domain

open Text

/-!
# Mapping of domain names

Domain names are compared without regard to case, width and the like: before anything else, each
character is kept, replaced by its image, left out, or refused, and the result is composed.
-/

/-- Images of single characters outside the runs. -/
def mappedImages : List (Char × List Char) := Packed.images mappedText

/-- Characters that are left out. -/
def ignoredRanges : List (Nat × Nat) := Packed.ranges ignoredText

/-- Characters that no domain name holds. -/
def refusedRanges : List (Nat × Nat) := Packed.ranges refusedText

/-- The image of a character that does not stand for itself. -/
def image? (c : Char) : Option (List Char) :=
  match mappedRuns.find? (·.holds c.toNat) with
  | some run => some [run.image c.toNat]
  | none => (mappedImages.find? (·.1 == c)).map (·.2)

/-- Whether a character stands for itself. -/
def isValid (c : Char) : Bool :=
  (image? c).isNone && !inRanges ignoredRanges c && !inRanges refusedRanges c

/-- The image of any character; `none` if it is refused. -/
def mapChar (c : Char) : Option (List Char) :=
  match image? c with
  | some cs => some cs
  | none =>
    if inRanges ignoredRanges c then some []
    else if inRanges refusedRanges c then none
    else some [c]

/-- The image of a text, composed. -/
def mapText (cs : List Char) : Option (List Char) := (cs.mapM mapChar).map fun css => compose css.flatten

end Turnstile.Domain
