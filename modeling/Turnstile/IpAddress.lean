import Turnstile.Text.Split

namespace Turnstile.IpAddress

/-!
# Network addresses

Whether a text is an address of version 4 (`10.0.0.1`) or 6 (`2001:db8::1`). Numbers of version 4 have no
leading zeros; one run of zero groups of version 6 may be left out; its last two groups may be written as
an address of version 4.
-/

/-! ### Version 4 -/

/-- The value of decimal digits. -/
def decimal (cs : List Char) : Nat := cs.foldl (fun n c => n * 10 + (c.toNat - 48)) 0

/-- A number up to 255 without leading zeros. -/
def isOctet (cs : List Char) : Bool :=
  cs.all Char.isDigit && 1 ≤ cs.length && cs.length ≤ 3
    && (cs.length == 1 || cs.head? != some '0') && decimal cs ≤ 255

/-- Four numbers between points. -/
def isV4 (cs : List Char) : Bool :=
  let parts := Text.splitOn '.' cs
  parts.length == 4 && parts.all isOctet

/-! ### Version 6 -/

/-- Whether the character is a hexadecimal digit. -/
def isHex (c : Char) : Bool := c.isDigit || ('a' ≤ c && c ≤ 'f') || ('A' ≤ c && c ≤ 'F')

/-- One to four hexadecimal digits. -/
def isGroup (cs : List Char) : Bool := cs.all isHex && 1 ≤ cs.length && cs.length ≤ 4

/-- How many groups fields stand for, if they are groups; the last may be an address of version 4 where
    that is allowed. -/
def groupCount? (allowV4 : Bool) : List (List Char) → Option Nat
  | [] => some 0
  | [f] => if isGroup f then some 1 else if allowV4 && isV4 f then some 2 else none
  | f :: fs => if isGroup f then (groupCount? allowV4 fs).map (· + 1) else none

/-- The fields between colons; an empty text has none. -/
def fields (cs : List Char) : List (List Char) := if cs.isEmpty then [] else Text.splitOn ':' cs

/-- The parts of a text before and behind its first double colon. -/
def splitGap : List Char → Option (List Char × List Char)
  | ':' :: ':' :: cs => some ([], cs)
  | c :: cs => (splitGap cs).map fun p => (c :: p.1, p.2)
  | [] => none

/-- Eight groups, or fewer around a double colon. -/
def isV6 (cs : List Char) : Bool :=
  match splitGap cs with
  | none => groupCount? true (fields cs) == some 8
  | some (head, tail) =>
    match groupCount? false (fields head), groupCount? true (fields tail) with
    | some m, some n => m + n ≤ 7
    | _, _ => false

/-- Whether the text is an address. -/
def isAddress (cs : List Char) : Bool := isV4 cs || isV6 cs

example : isAddress "127.0.0.1".toList = true := by decide +kernel

example : isAddress "::ffff:127.0.0.1".toList = true := by decide +kernel

example : isAddress "1::2::3".toList = false := by decide +kernel

end Turnstile.IpAddress
