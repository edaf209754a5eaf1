import Turnstile.Domain
import Turnstile.IpAddress
import Turnstile.Text.Blank

namespace Turnstile.Email

/-!
# Email addresses

An address is stored trimmed and in small letters. It has a local part of common ASCII characters and a
host: a domain name, in any script, or a network address in brackets.

* `canonical` is the stored form.
* `isFormat` checks the form of an address.
-/

open Text

/-! ### Stored form -/

/-- The stored form of an address. -/
def canonicalChars (cs : List Char) : List Char := lowerChars (trimChars cs)

/-- The stored form of an address. -/
def canonical (raw : String) : String := String.ofList (canonicalChars raw.toList)

/-! ### Parts -/

/-- Letters and digits. Two characters count as letters because their case maps to `s` and `k`. -/
def isWordChar (c : Char) : Bool := c.isAlphanum || c == '\u017f' || c == '\u212a'

/-- Signs that a local part may hold. -/
def localSigns : List Char := ".!#$%&\x27*+/=?^_\x60\x7b|\x7d~-".toList

/-- At most 64 letters, digits and signs. -/
def isLocal (cs : List Char) : Bool :=
  1 ≤ cs.length && cs.length ≤ 64 && cs.all fun c => isWordChar c || localSigns.contains c

/-- At most 63 letters, digits and hyphens, with no hyphen at either end. -/
def isLabel (cs : List Char) : Bool :=
  1 ≤ cs.length && cs.length ≤ 63 && (cs.all fun c => isWordChar c || c == '-')
    && cs.head?.any isWordChar && cs.getLast?.any isWordChar

/-- Labels between points. -/
def isDomainName (cs : List Char) : Bool := (splitOn '.' cs).all isLabel

/-- Whether the text ends in a network address in brackets. -/
def endsInAddress (cs : List Char) : Bool :=
  match cs.reverse with
  | ']' :: before =>
    (before.contains '[') && IpAddress.isAddress (before.takeWhile (· != '[')).reverse
  | _ => false

/-- A domain name or a network address. -/
def isHost (cs : List Char) : Bool := isDomainName cs || endsInAddress cs

/-- The parts before and behind the last `@`. -/
def split? (cs : List Char) : Option (List Char × List Char) :=
  match cs.reverse.dropWhile (· != '@') with
  | [] => none
  | _ :: before => some (before.reverse, (cs.reverse.takeWhile (· != '@')).reverse)

/-! ### Form -/

/-- Whether the characters have the form of an address. A host that is no domain name as it stands is
    tried in its ASCII form. -/
def isFormatChars (cs : List Char) : Bool :=
  match split? cs with
  | none => false
  | some (name, host) =>
    isLocal name && host.length ≤ 255 && (isHost host || (Domain.toAscii? host).any isHost)

/-- Whether a text has the form of an address. -/
def isFormat (s : String) : Bool := isFormatChars s.toList

example : isFormat "jane.doe@example.com" = true := by decide +kernel

example : isFormat "jane@[127.0.0.1]" = true := by decide +kernel

end Turnstile.Email
