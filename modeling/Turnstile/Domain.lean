import Turnstile.Domain.Direction
import Turnstile.Domain.Joining
import Turnstile.Domain.Mapping
import Turnstile.Domain.Punycode
import Turnstile.Text.Split

namespace Turnstile.Domain

/-!
# Internationalised domain names

The ASCII form of a domain name in any script, by the non-transitional processing of UTS 46: map, compose,
read labels that are encoded already, check each label, and encode those that need it.

* `Label` is a checked label with both of its forms.
* `toAscii?` gives the ASCII form of a name, if all its labels pass.
-/

/-- A label as it is read and as it is sent. -/
structure Label where
  unicode : List Char
  ascii : List Char
  deriving DecidableEq, Repr

/-- Whether the character is in ASCII. -/
def isAscii (c : Char) : Bool := c.toNat < 128

/-- A label must not start with a mark, and joiners must fit. -/
def isWellFormed (label : List Char) : Bool :=
  !(label.head?.any isMark) && joinersFit [] label

/-- Whether what an encoded label stands for could have been encoded: it is composed, in mapped form and
    not in ASCII. -/
def isCanonical (label : List Char) : Bool :=
  label.all isValid && Text.compose label == label && !label.all isAscii

/-- Read the label behind the mark `xn--`. -/
def Label.ofEncoded? (cs : List Char) : Option Label :=
  if cs.all isAscii then
    ((Punycode.decode cs).filter isCanonical).map fun label =>
      ⟨label, ['x', 'n', '-', '-'] ++ cs⟩
  else none

/-- Read a label. -/
def Label.ofChars? (cs : List Char) : Option Label :=
  match cs with
  | 'x' :: 'n' :: '-' :: '-' :: rest => Label.ofEncoded? rest
  | _ => some ⟨cs, if cs.all isAscii then cs else ['x', 'n', '-', '-'] ++ Punycode.encode cs⟩

/-- Read a label and check it. -/
def label? (cs : List Char) : Option Label :=
  (Label.ofChars? cs).filter fun l => isWellFormed l.unicode

/-- The labels of a name. -/
def labels? (cs : List Char) : Option (List Label) := do
  let mapped ← mapText cs
  let labels ← (Text.splitOn '.' mapped).mapM label?
  if areOrderly (labels.map (·.unicode)) then return labels else none

/-- The ASCII form of a name. -/
def toAscii? (cs : List Char) : Option (List Char) :=
  (labels? cs).map fun labels => Text.joinWith '.' (labels.map (·.ascii))

end Turnstile.Domain
