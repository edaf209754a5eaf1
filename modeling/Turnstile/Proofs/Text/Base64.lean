import Turnstile.Text.Base64

namespace Turnstile.Text.Base64

/-!
# Base64 there and back

* `decode_encode`: bytes that are written are read back. `decode_eq_some_iff`: nothing else is read.
* `exists_digit` and `encode_length` say what is written: digits of the alphabet, four for three bytes.
-/

/-- A byte is what a number has in its last eight bits. -/
theorem ofNat_eq_of_mod {n : Nat} {a : UInt8} (h : n % 256 = a.toNat) : UInt8.ofNat n = a :=
  UInt8.toNat_inj.1 (by rw [UInt8.toNat_ofNat', h])

/-- **What is written is read back.** -/
theorem decode_encode (bs : List UInt8) : decode (encode bs) = some bs := by
  fun_induction encode bs with
  | case1 a b c rest n ih =>
    have ha := a.toNat_lt
    have hb := b.toNat_lt
    have hc := c.toNat_lt
    -- the four digits make up the number of the group again, and its three parts are the bytes
    have hn : n / 262144 * 262144 + n / 4096 % 64 * 4096 + n / 64 % 64 * 64 + n % 64 = n := by omega
    rw [decode, value?_digit _ (by omega), value?_digit _ (by omega), value?_digit _ (by omega),
      value?_digit _ (by omega), ih]
    simp only [Option.bind_eq_bind, Option.bind_some, hn]
    rw [ofNat_eq_of_mod (a := a) (by omega), ofNat_eq_of_mod (a := b) (by omega),
      ofNat_eq_of_mod (a := c) (by omega)]
    rfl
  | case2 a b n =>
    have ha := a.toNat_lt
    have hb := b.toNat_lt
    have hn : n / 4096 * 4096 + n / 64 % 64 * 64 + n % 64 = n := by omega
    -- three digits hold two bits more than two bytes, and these are not set
    have hspare : n % 4 = 0 := by omega
    rw [decode, value?_digit _ (by omega), value?_digit _ (by omega), value?_digit _ (by omega)]
    simp only [Option.bind_eq_bind, Option.bind_some, hn, if_pos hspare]
    rw [ofNat_eq_of_mod (a := a) (by omega), ofNat_eq_of_mod (a := b) (by omega)]
    rfl
  | case3 a n =>
    have ha := a.toNat_lt
    have hn : n / 64 * 64 + n % 64 = n := by omega
    have hspare : n % 16 = 0 := by omega
    rw [decode, value?_digit _ (by omega), value?_digit _ (by omega)]
    simp only [Option.bind_eq_bind, Option.bind_some, hn, if_pos hspare]
    rw [ofNat_eq_of_mod (a := a) (by omega)]
    rfl
  | case4 => rfl

/-- A character that has a value is the digit of it. -/
theorem eq_digit_of_value? {c : Char} {n : Nat} (h : value? c = some n) : n < 64 ∧ c = digit n := by
  unfold value? at h
  dsimp only at h
  split at h
  · next hrange =>
    obtain rfl := Option.some.inj h
    refine ⟨by omega, ?_⟩
    rw [digit, if_pos (by omega), show c.toNat - 65 + 65 = c.toNat by omega, Char.ofNat_toNat]
  · split at h
    · next hrange =>
      obtain rfl := Option.some.inj h
      refine ⟨by omega, ?_⟩
      rw [digit, if_neg (by omega), if_pos (by omega), show c.toNat - 71 + 71 = c.toNat by omega,
        Char.ofNat_toNat]
    · split at h
      · next hrange =>
        obtain rfl := Option.some.inj h
        refine ⟨by omega, ?_⟩
        rw [digit, if_neg (by omega), if_neg (by omega), if_pos (by omega),
          show c.toNat + 4 - 4 = c.toNat by omega, Char.ofNat_toNat]
      · split at h
        · next hplus =>
          obtain rfl := Option.some.inj h
          exact ⟨by decide, hplus⟩
        · split at h
          · next hslash =>
            obtain rfl := Option.some.inj h
            exact ⟨by decide, hslash⟩
          · cases h

/-- Only what is written for some bytes can be read. -/
theorem eq_encode_of_decode {cs : List Char} {bs : List UInt8} (h : decode cs = some bs) :
    cs = encode bs := by
  fun_induction decode cs generalizing bs with
  | case1 a b c d rest ih =>
    simp only [Option.bind_eq_bind, Option.bind_eq_some_iff, Option.pure_def, Option.some.injEq] at h
    obtain ⟨w, hw, x, hx, y, hy, z, hz, bytes, hbytes, rfl⟩ := h
    obtain ⟨hw, rfl⟩ := eq_digit_of_value? hw
    obtain ⟨hx, rfl⟩ := eq_digit_of_value? hx
    obtain ⟨hy, rfl⟩ := eq_digit_of_value? hy
    obtain ⟨hz, rfl⟩ := eq_digit_of_value? hz
    -- the three bytes make up the number of the four digits again
    have hn : (w * 262144 + x * 4096 + y * 64 + z) / 65536 % 256 * 65536
        + (w * 262144 + x * 4096 + y * 64 + z) / 256 % 256 * 256
        + (w * 262144 + x * 4096 + y * 64 + z) % 256 = w * 262144 + x * 4096 + y * 64 + z := by omega
    rw [encode, ← ih hbytes]
    simp only [UInt8.toNat_ofNat', Nat.reducePow, hn]
    rw [show (w * 262144 + x * 4096 + y * 64 + z) / 262144 = w by omega,
      show (w * 262144 + x * 4096 + y * 64 + z) / 4096 % 64 = x by omega,
      show (w * 262144 + x * 4096 + y * 64 + z) / 64 % 64 = y by omega,
      show (w * 262144 + x * 4096 + y * 64 + z) % 64 = z by omega]
  | case2 a b c =>
    simp only [Option.bind_eq_bind, Option.bind_eq_some_iff, Option.pure_def] at h
    obtain ⟨x, hx, y, hy, z, hz, h⟩ := h
    obtain ⟨hx, rfl⟩ := eq_digit_of_value? hx
    obtain ⟨hy, rfl⟩ := eq_digit_of_value? hy
    obtain ⟨hz, rfl⟩ := eq_digit_of_value? hz
    split at h
    · next hspare =>
      obtain rfl := Option.some.inj h
      have hn : (x * 4096 + y * 64 + z) / 1024 % 256 * 1024 + (x * 4096 + y * 64 + z) / 4 % 256 * 4
          = x * 4096 + y * 64 + z := by omega
      rw [encode]
      simp only [UInt8.toNat_ofNat', Nat.reducePow, hn]
      rw [show (x * 4096 + y * 64 + z) / 4096 = x by omega,
        show (x * 4096 + y * 64 + z) / 64 % 64 = y by omega,
        show (x * 4096 + y * 64 + z) % 64 = z by omega]
    · cases h
  | case3 a b =>
    simp only [Option.bind_eq_bind, Option.bind_eq_some_iff, Option.pure_def] at h
    obtain ⟨x, hx, y, hy, h⟩ := h
    obtain ⟨hx, rfl⟩ := eq_digit_of_value? hx
    obtain ⟨hy, rfl⟩ := eq_digit_of_value? hy
    split at h
    · next hspare =>
      obtain rfl := Option.some.inj h
      have hn : (x * 64 + y) / 16 % 256 * 16 = x * 64 + y := by omega
      rw [encode]
      simp only [UInt8.toNat_ofNat', Nat.reducePow, hn]
      rw [show (x * 64 + y) / 64 = x by omega, show (x * 64 + y) % 64 = y by omega]
    · cases h
  | case4 => cases h
  | case5 =>
    cases h
    rfl

/-- **The texts that can be read** are those that are written, so each sequence of bytes has one text. -/
theorem decode_eq_some_iff {cs : List Char} {bs : List UInt8} : decode cs = some bs ↔ cs = encode bs :=
  ⟨eq_encode_of_decode, fun h => h ▸ decode_encode bs⟩

/-- Every character that is written is a digit of the alphabet. -/
theorem exists_digit {bs : List UInt8} {c : Char} (hc : c ∈ encode bs) : ∃ n < 64, c = digit n := by
  fun_induction encode bs with
  | case1 x y z rest n ih =>
    have hx := x.toNat_lt
    have hy := y.toNat_lt
    have hz := z.toNat_lt
    simp only [List.mem_cons] at hc
    rcases hc with rfl | rfl | rfl | rfl | hc
    · exact ⟨_, by omega, rfl⟩
    · exact ⟨_, by omega, rfl⟩
    · exact ⟨_, by omega, rfl⟩
    · exact ⟨_, by omega, rfl⟩
    · exact ih hc
  | case2 x y n =>
    have hx := x.toNat_lt
    have hy := y.toNat_lt
    simp only [List.mem_cons, List.not_mem_nil, or_false] at hc
    rcases hc with rfl | rfl | rfl <;> exact ⟨_, by omega, rfl⟩
  | case3 x n =>
    have hx := x.toNat_lt
    simp only [List.mem_cons, List.not_mem_nil, or_false] at hc
    rcases hc with rfl | rfl <;> exact ⟨_, by omega, rfl⟩
  | case4 => cases hc

/-- Four digits for three bytes, and for a shorter last group one digit more than it has bytes. -/
theorem encode_length (bs : List UInt8) : (encode bs).length = (4 * bs.length + 2) / 3 := by
  fun_induction encode bs with
  | case1 a b c rest n ih =>
    simp only [List.length_cons, ih]
    omega
  | case2 | case3 | case4 => simp

end Turnstile.Text.Base64
