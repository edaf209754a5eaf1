import Turnstile.Domain.Direction.Table
import Turnstile.Text.Packed

namespace Turnstile.Domain

open Text (inRanges)

/-!
# Direction of labels

A domain name with letters written from right to left must not be ambiguous on the screen: each of its
labels starts with a letter, ends with a letter or a number, mixes no directions, and, if written from
right to left, uses one kind of digits only.
-/

/-- Classes and their ranges. -/
def directions : List (Direction × List (Nat × Nat)) :=
  directionTexts.map fun p => (p.1, Text.Packed.ranges p.2)

/-- The class of a character. -/
def direction (c : Char) : Direction :=
  match directions.find? fun p => inRanges p.2 c with
  | some p => p.1
  | none => .left

/-- Whether the class makes a name one that is written in both directions. -/
def Direction.isRightward : Direction → Bool
  | right | arabicLetter | arabicNumber => true
  | _ => false

/-- Whether a label from left to right may hold the class. -/
def Direction.inLeft : Direction → Bool
  | left | europeanNumber | europeanSeparator | commonSeparator | europeanTerminator | neutral
  | boundary | mark => true
  | _ => false

/-- Whether a label from left to right may end with the class. -/
def Direction.endsLeft : Direction → Bool
  | left | europeanNumber => true
  | _ => false

/-- Whether a label from right to left may hold the class. -/
def Direction.inRight : Direction → Bool
  | right | arabicLetter | arabicNumber | europeanNumber | europeanSeparator | commonSeparator
  | europeanTerminator | neutral | boundary | mark => true
  | _ => false

/-- Whether a label from right to left may end with the class. -/
def Direction.endsRight : Direction → Bool
  | right | arabicLetter | europeanNumber | arabicNumber => true
  | _ => false

/-- The last class that is not a mark's. -/
def lastUnmarked? (ds : List Direction) : Option Direction := ds.reverse.find? (· != .mark)

/-- Whether the classes of a label follow the rule. -/
def isOrderly (ds : List Direction) : Bool :=
  match ds with
  | [] => true
  | .left :: rest => rest.all Direction.inLeft && (lastUnmarked? ds).all Direction.endsLeft
  | first :: rest =>
    (first == .right || first == .arabicLetter)
      && rest.all Direction.inRight && (lastUnmarked? ds).all Direction.endsRight
      && !(rest.contains .europeanNumber && rest.contains .arabicNumber)

/-- Whether the labels of a name can be told apart on the screen. -/
def areOrderly (labels : List (List Char)) : Bool :=
  let classes := labels.map (·.map direction)
  !(classes.any (·.any Direction.isRightward)) || classes.all isOrderly

end Turnstile.Domain
