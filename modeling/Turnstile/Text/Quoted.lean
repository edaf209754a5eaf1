import Turnstile.Text.Case
import Turnstile.Text.Quoted.Table

namespace Turnstile.Text

/-!
# Quoted text

A text between double quotes, as it appears in messages and in the inspected form of records.

* `escape` spells one character: a short escape, `\u{…}` for what has no glyph of its own, or the
  character itself.
* `quote` encloses the escaped characters in quotes. A quote or backslash inside is escaped, so the
  closing quote is the first one that stands alone.
-/

/-- The lower-case hexadecimal digits of a number, without leading zeros. -/
def hexDigits (n : Nat) : List Char := Nat.toDigits 16 n

/-- One character inside a quoted text. -/
def escape (c : Char) : List Char :=
  match c with
  | '\x00' => ['\\', '0']
  | '\t' => ['\\', 't']
  | '\n' => ['\\', 'n']
  | '\r' => ['\\', 'r']
  | '"' => ['\\', '"']
  | '\\' => ['\\', '\\']
  | _ =>
    if c.toNat < 0x7F && 0x20 ≤ c.toNat then [c]
    else if inRanges extendingRanges c || inRanges hiddenRanges c then
      ['\\', 'u', '\x7b'] ++ hexDigits c.toNat ++ ['\x7d']
    else [c]

/-- The quoted form of a text. -/
def quote (s : String) : String :=
  String.ofList ('"' :: s.toList.flatMap escape ++ ['"'])

end Turnstile.Text
