namespace Turnstile.Text

/-!
# Numbers in settings and credentials

A whole number is an optional `+` and one or more ASCII digits, up to a limit. Of several faults the
leftmost is reported.

* `readNumber` reads a number.
* `NumberFault.message` words the fault.
-/

/-- Why a text is not a number within the limit. -/
inductive NumberFault where
  | empty
  | notDigit
  | tooLarge
  deriving DecidableEq, Repr

/-- The wording of a fault. -/
def NumberFault.message : NumberFault → String
  | .empty => "cannot parse integer from empty string"
  | .notDigit => "invalid digit found in string"
  | .tooLarge => "number too large to fit in target type"

/-- The value of an ASCII digit. -/
def digitValue (c : Char) : Nat := c.toNat - 48

/-- Read digits onto the number read so far. -/
def readDigits (limit : Nat) (value : Nat) : List Char → Except NumberFault Nat
  | [] => .ok value
  | c :: cs =>
    if c.isDigit then
      let value := 10 * value + digitValue c
      if value ≤ limit then readDigits limit value cs else .error .tooLarge
    else .error .notDigit

/-- Read a number of at most `limit`. -/
def readNumber (limit : Nat) : List Char → Except NumberFault Nat
  | [] => .error .empty
  | ['+'] => .error .notDigit
  | '+' :: cs => readDigits limit 0 cs
  | cs => readDigits limit 0 cs

end Turnstile.Text
