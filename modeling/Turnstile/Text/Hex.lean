namespace Turnstile.Text

/-!
# Hexadecimal

Bytes as pairs of lower-case hexadecimal digits, high half first. The text of `n` bytes has `2 * n`
characters (`hex_length`), each of them one of `0` to `9` and `a` to `f` (`hex_digit`).
-/

/-- The digit for a number below sixteen. -/
def hexDigit (n : Fin 16) : Char := Nat.digitChar n

/-- The two digits of a byte. -/
def hexByte (b : UInt8) : List Char :=
  [hexDigit ⟨b.toNat / 16, by have := b.toNat_lt; omega⟩, hexDigit ⟨b.toNat % 16, by omega⟩]

/-- The digits of a sequence of bytes. -/
def hex (bs : List UInt8) : List Char := bs.flatMap hexByte

/-- The characters that hexadecimal text consists of. -/
def isHexDigit (c : Char) : Bool := c.isDigit || ('a' ≤ c && c ≤ 'f')

theorem hex_length (bs : List UInt8) : (hex bs).length = 2 * bs.length := by
  induction bs with
  | nil => rfl
  | cons b bs ih =>
    rw [hex, List.flatMap_cons, List.length_append, ← hex, ih, List.length_cons]
    simp only [hexByte, List.length_cons, List.length_nil]
    omega

theorem hexDigit_isHexDigit : ∀ n : Fin 16, isHexDigit (hexDigit n) = true := by decide

theorem hex_digit (bs : List UInt8) : ∀ c ∈ hex bs, isHexDigit c = true := by
  intro c hc
  obtain ⟨b, -, hb⟩ := List.mem_flatMap.1 hc
  simp only [hexByte, List.mem_cons, List.not_mem_nil, or_false] at hb
  rcases hb with rfl | rfl <;> exact hexDigit_isHexDigit _

end Turnstile.Text
