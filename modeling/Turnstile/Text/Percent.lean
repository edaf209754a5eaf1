namespace Turnstile.Text

/-!
# Percent encoding

In addresses a byte can be written as `%` and two hexadecimal digits. A `%` without them stands for itself.
-/

/-- The value of a hexadecimal digit in ASCII. -/
def hexValue? (b : UInt8) : Option Nat :=
  let n := b.toNat
  if 48 ≤ n ∧ n ≤ 57 then some (n - 48)
  else if 65 ≤ n ∧ n ≤ 70 then some (n - 55)
  else if 97 ≤ n ∧ n ≤ 102 then some (n - 87)
  else none

/-- The byte that two digits write. -/
def hexPair? (a b : UInt8) : Option UInt8 := do
  let high ← hexValue? a
  let low ← hexValue? b
  return UInt8.ofNat (16 * high + low)

/-- Read what is percent-encoded. -/
def percentDecode : List UInt8 → List UInt8
  | [] => []
  | [b] => [b]
  | [b, c] => [b, c]
  | b :: h :: l :: bs =>
    if b = 0x25 then
      match hexPair? h l with
      | some byte => byte :: percentDecode bs
      | none => b :: percentDecode (h :: l :: bs)
    else b :: percentDecode (h :: l :: bs)

/-- The bytes that a text writes. -/
def percentBytes (s : String) : List UInt8 := percentDecode s.toUTF8.toList

example : percentDecode "a%20%4g".toUTF8.toList = "a %4g".toUTF8.toList := by cbv

end Turnstile.Text
