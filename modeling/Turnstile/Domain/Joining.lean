import Turnstile.Domain.Joining.Table
import Turnstile.Text.Compose

namespace Turnstile.Domain

open Text (combiningClass inRanges)

/-!
# Joiners

Two characters without a glyph ask their neighbours to join or not to join. They may stand only where
they can be seen to act: behind a virama, or, for the one that parts, between letters that would join.
-/

/-- Ways of joining and their ranges. -/
def joinings : List (Joining × List (Nat × Nat)) :=
  joiningTexts.map fun p => (p.1, Text.Packed.ranges p.2)

/-- How a character joins. -/
def joining (c : Char) : Joining :=
  match joinings.find? fun p => inRanges p.2 c with
  | some p => p.1
  | none => .none

/-- Ranges of combining marks. -/
def markRanges : List (Nat × Nat) := Text.Packed.ranges markText

/-- Whether a character is a combining mark. -/
def isMark (c : Char) : Bool := inRanges markRanges c

/-- The combining class of viramas. -/
def viramaClass : Nat := 9

/-- Whether the nearest character that is not transparent joins on one of the wanted sides. -/
def joinsBeyond (wanted : List Joining) (cs : List Char) : Bool :=
  match (cs.map joining).dropWhile (· == .transparent) with
  | [] => false
  | j :: _ => wanted.contains j

/-- Whether a joiner may stand behind `before` (nearest character first) and in front of `after`. -/
def mayJoin (joiner : Char) (before after : List Char) : Bool :=
  match before with
  | [] => false
  | previous :: _ =>
    combiningClass previous == viramaClass
      || (joiner == '\u200c' && joinsBeyond [.left, .both] before
        && joinsBeyond [.right, .both] after)

/-- Whether every joiner behind the characters `before` (nearest first) may stand where it does. -/
def joinersFit (before : List Char) : List Char → Bool
  | [] => true
  | c :: cs =>
    ((c != '\u200c' && c != '\u200d') || mayJoin c before cs) && joinersFit (c :: before) cs

end Turnstile.Domain
