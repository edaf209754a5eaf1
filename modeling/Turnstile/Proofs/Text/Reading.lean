import Turnstile.Text.Number
import Turnstile.Text.Split

namespace Turnstile.Text

/-!
# What is read from fields

* `Numeral` holds of texts that spell a number, and `readNumber_eq_ok_iff` says that these are the ones that
  are read, up to the limit. `readNumber_toDigits`: a number that is written in decimal is read back.
* `toDigits_ofDigitChars`: digits without leading zeros are the decimal form of a number.
* `splitOn_eq_iff`: fields are what separators stand between. `splitOn_eq_pair_iff`: a text has two fields
  exactly if there is one separator in it.
-/

variable {limit value n : Nat} {cs : List Char}

/-! ### Numbers -/

/-- The text spells the number: one or more digits, with a plus sign in front of them at most. -/
def Numeral (cs : List Char) (n : Nat) : Prop :=
  ∃ digits : List Char, digits ≠ [] ∧ (∀ c ∈ digits, c.isDigit = true) ∧
    (cs = digits ∨ cs = '+' :: digits) ∧ Nat.ofDigitChars 10 digits 0 = n

/-- Digits are read to their value, as long as it is within the limit. -/
theorem readDigits_eq (hcs : ∀ c ∈ cs, c.isDigit = true)
    (hle : Nat.ofDigitChars 10 cs value ≤ limit) :
    readDigits limit value cs = .ok (Nat.ofDigitChars 10 cs value) := by
  induction cs generalizing value with
  | nil => rfl
  | cons c cs ih =>
    rw [Nat.ofDigitChars_cons] at hle ⊢
    have hprefix : 10 * value + digitValue c ≤ limit := by
      -- further digits never make a number smaller
      rw [Nat.ofDigitChars_eq_ofDigitChars_zero] at hle
      have hpow : 0 < 10 ^ cs.length := Nat.pow_pos (by decide)
      have hmul := Nat.le_mul_of_pos_left (10 * value + digitValue c) hpow
      exact Nat.le_trans hmul (Nat.le_trans (Nat.le_add_right _ _) hle)
    rw [readDigits, if_pos (hcs c List.mem_cons_self)]
    show (if 10 * value + digitValue c ≤ limit then _ else _) = _
    rw [if_pos hprefix]
    exact ih (fun d hd => hcs d (List.mem_cons_of_mem _ hd)) hle

/-- What is read onto a number: digits, to their value, within the limit. -/
theorem readDigits_eq_ok_iff (hvalue : value ≤ limit) :
    readDigits limit value cs = .ok n ↔
      (∀ c ∈ cs, c.isDigit = true) ∧ Nat.ofDigitChars 10 cs value = n ∧ n ≤ limit := by
  constructor
  · intro hread
    induction cs generalizing value with
    | nil =>
      cases hread
      exact ⟨fun _ h => absurd h List.not_mem_nil, rfl, hvalue⟩
    | cons c cs ih =>
      rw [readDigits] at hread
      split at hread
      · next hdigit =>
        dsimp only at hread
        split at hread
        · next hle =>
          obtain ⟨hdigits, hn, hlimit⟩ := ih hle hread
          exact ⟨List.forall_mem_cons.2 ⟨hdigit, hdigits⟩, hn, hlimit⟩
        · cases hread
      · cases hread
  · rintro ⟨hdigits, rfl, hlimit⟩
    exact readDigits_eq hdigits hlimit

/-- **The numbers that are read** are the numerals up to the limit. -/
theorem readNumber_eq_ok_iff : readNumber limit cs = .ok n ↔ Numeral cs n ∧ n ≤ limit := by
  have hread (digits : List Char) : readDigits limit 0 digits = .ok n ↔
      (∀ c ∈ digits, c.isDigit = true) ∧ Nat.ofDigitChars 10 digits 0 = n ∧ n ≤ limit :=
    readDigits_eq_ok_iff (Nat.zero_le limit)
  constructor
  · intro h
    rw [readNumber.eq_def] at h
    split at h
    · cases h
    · cases h
    · next digits hsome =>
      obtain ⟨hdigits, hn, hlimit⟩ := (hread digits).1 h
      exact ⟨⟨digits, fun hnil => hsome (by rw [hnil]), hdigits, .inr rfl, hn⟩, hlimit⟩
    · next hsome _ _ =>
      obtain ⟨hdigits, hn, hlimit⟩ := (hread cs).1 h
      exact ⟨⟨cs, hsome, hdigits, .inl rfl, hn⟩, hlimit⟩
  · rintro ⟨⟨digits, hsome, hdigits, hcs, hn⟩, hlimit⟩
    obtain ⟨d, ds, rfl⟩ := List.exists_cons_of_ne_nil hsome
    have hok := (hread (d :: ds)).2 ⟨hdigits, hn, hlimit⟩
    rcases hcs with rfl | rfl
    · have hne : d ≠ '+' := by
        rintro rfl
        exact absurd (hdigits '+' List.mem_cons_self) (by decide)
      rw [readNumber]
      · exact hok
      · exact hsome
      · exact fun h => hne (List.cons.inj h).1
      · exact fun _ h => hne (List.cons.inj h).1
    · exact hok

/-- A number written in decimal is read back. -/
theorem readNumber_toDigits (hn : n ≤ limit) : readNumber limit (Nat.toDigits 10 n) = .ok n := by
  have hdigits : ∀ c ∈ Nat.toDigits 10 n, c.isDigit = true :=
    fun c hc => Nat.isDigit_of_mem_toDigits (by decide) (by decide) hc
  exact readNumber_eq_ok_iff.2
    ⟨⟨_, Nat.toDigits_ne_nil, hdigits, .inl rfl, Nat.ofDigitChars_ten_toDigits⟩, hn⟩

/-! ### Decimal forms -/

/-- A digit is the decimal form of its value. -/
theorem toDigits_digitValue {c : Char} (hc : c.isDigit = true) :
    digitValue c < 10 ∧ Nat.toDigits 10 (digitValue c) = [c] := by
  have hrange : 48 ≤ c.toNat ∧ c.toNat ≤ 57 := by
    simpa [Char.isDigit, UInt32.le_iff_toNat_le] using hc
  have hlt : digitValue c < 10 := by
    unfold digitValue
    omega
  refine ⟨hlt, ?_⟩
  rw [Nat.toDigits_of_lt_base hlt, List.singleton_inj, ← Char.toNat_inj, Nat.toNat_digitChar_of_lt_ten hlt]
  unfold digitValue
  omega

/-- Digits behind a number above zero go on with its decimal form. -/
theorem toDigits_append_digits (hcs : ∀ c ∈ cs, c.isDigit = true) (hvalue : 0 < value) :
    Nat.toDigits 10 value ++ cs = Nat.toDigits 10 (Nat.ofDigitChars 10 cs value) := by
  induction cs generalizing value with
  | nil => simp
  | cons c cs ih =>
    obtain ⟨hc, hcs⟩ := List.forall_mem_cons.1 hcs
    obtain ⟨hlt, hdigit⟩ := toDigits_digitValue hc
    calc Nat.toDigits 10 value ++ c :: cs
        = (Nat.toDigits 10 value ++ Nat.toDigits 10 (digitValue c)) ++ cs := by simp [hdigit]
      _ = Nat.toDigits 10 (10 * value + digitValue c) ++ cs := by
          rw [Nat.toDigits_append_toDigits (by decide) hvalue hlt]
      _ = Nat.toDigits 10 (Nat.ofDigitChars 10 (c :: cs) value) := ih hcs (by omega)

/-- **Decimal forms**: digits without leading zeros are the decimal form of the number that they spell. -/
theorem toDigits_ofDigitChars (hsome : cs ≠ []) (hcs : ∀ c ∈ cs, c.isDigit = true)
    (hlead : cs.length = 1 ∨ cs.head? ≠ some '0') : Nat.toDigits 10 (Nat.ofDigitChars 10 cs 0) = cs := by
  obtain ⟨c, cs, rfl⟩ := List.exists_cons_of_ne_nil hsome
  obtain ⟨hc, hcs⟩ := List.forall_mem_cons.1 hcs
  obtain ⟨-, hdigit⟩ := toDigits_digitValue hc
  rw [Nat.ofDigitChars_cons, Nat.mul_zero, Nat.zero_add]
  show Nat.toDigits 10 (Nat.ofDigitChars 10 cs (digitValue c)) = _
  rcases hlead with hone | hlead
  · -- a digit by itself, which may be the zero
    obtain rfl : cs = [] := List.length_eq_zero_iff.1 (Nat.succ.inj hone)
    exact hdigit
  · have hpos : 0 < digitValue c := by
      rw [Nat.pos_iff_ne_zero]
      intro hzero
      rw [hzero, Nat.toDigits_zero, List.singleton_inj] at hdigit
      exact hlead (congrArg some hdigit.symm)
    rw [← toDigits_append_digits hcs hpos, hdigit, List.singleton_append]

/-- The decimal form of a number above zero does not begin with a zero. -/
theorem head?_toDigits_ne_zero (hn : n ≠ 0) : (Nat.toDigits 10 n).head? ≠ some '0' := by
  induction n using Nat.strongRecOn with
  | ind n ih =>
    rw [Nat.toDigits_eq_if (by decide)]
    split
    · rw [List.head?_cons, Ne, Option.some.injEq, Nat.digitChar_eq_zero]
      exact hn
    · -- the first digit is that of the tenth part
      have hfirst := ih (n / 10) (by omega) (by omega)
      obtain ⟨c, cs, hcs⟩ := List.exists_cons_of_ne_nil (Nat.toDigits_ne_nil (n := n / 10) (b := 10))
      rw [hcs] at hfirst ⊢
      exact hfirst

/-! ### Fields -/

/-- A text with the separator has at least two fields. -/
theorem splitOn_of_mem {sep : Char} (h : sep ∈ cs) :
    ∃ f g fs, splitOn sep cs = f :: g :: fs := by
  induction cs with
  | nil => cases h
  | cons c cs ih =>
    by_cases hc : c = sep
    · obtain ⟨g, fs, hfields⟩ := List.exists_cons_of_ne_nil (splitOn_ne_nil sep cs)
      exact ⟨[], g, fs, by rw [splitOn, if_pos hc, hfields]⟩
    · obtain ⟨f, g, fs, hfields⟩ := ih ((List.mem_cons.1 h).resolve_left (Ne.symm hc))
      exact ⟨c :: f, g, fs, by rw [splitOn, if_neg hc, hfields, consField]⟩

/-- There is no separator within a field. -/
theorem not_mem_of_mem_splitOn {sep : Char} {f : List Char} (hf : f ∈ splitOn sep cs) : sep ∉ f := by
  induction cs generalizing f with
  | nil =>
    obtain rfl := List.mem_singleton.1 hf
    exact List.not_mem_nil
  | cons c cs ih =>
    rw [splitOn] at hf
    split at hf
    · rcases List.mem_cons.1 hf with rfl | hf
      · exact List.not_mem_nil
      · exact ih hf
    · next hne =>
      obtain ⟨g, gs, hfields⟩ := List.exists_cons_of_ne_nil (splitOn_ne_nil sep cs)
      rw [hfields, consField] at hf
      rw [hfields] at ih
      rcases List.mem_cons.1 hf with rfl | hf
      · rw [List.mem_cons, not_or]
        exact ⟨Ne.symm hne, ih List.mem_cons_self⟩
      · exact ih (List.mem_cons_of_mem _ hf)

/-- Fields without separators are found again between them. -/
theorem splitOn_joinWith {sep : Char} {fs : List (List Char)} (hsome : fs ≠ []) (hfs : ∀ f ∈ fs, sep ∉ f) :
    splitOn sep (joinWith sep fs) = fs := by
  induction fs with
  | nil => exact absurd rfl hsome
  | cons f fs ih =>
    obtain ⟨hf, hfs⟩ := List.forall_mem_cons.1 hfs
    cases fs with
    | nil => exact splitOn_eq_singleton hf
    | cons g gs =>
      rw [joinWith, splitOn_append hf, ih (List.cons_ne_nil _ _) hfs]
      exact List.cons_ne_nil _ _

/-- **Fields are what separators stand between**, and there is at least one. -/
theorem splitOn_eq_iff {sep : Char} {fs : List (List Char)} :
    splitOn sep cs = fs ↔ fs ≠ [] ∧ (∀ f ∈ fs, sep ∉ f) ∧ cs = joinWith sep fs := by
  constructor
  · rintro rfl
    exact ⟨splitOn_ne_nil sep cs, fun f hf => not_mem_of_mem_splitOn hf, (joinWith_splitOn sep cs).symm⟩
  · rintro ⟨hsome, hfs, rfl⟩
    exact splitOn_joinWith hsome hfs

/-- Fields with separators between them: the first one, and the others with a separator in front of each. -/
theorem joinWith_cons (sep : Char) (f : List Char) (fs : List (List Char)) :
    joinWith sep (f :: fs) = f ++ fs.flatMap (sep :: ·) := by
  induction fs generalizing f with
  | nil => simp [joinWith]
  | cons g gs ih =>
    rw [joinWith, ih, List.flatMap_cons, List.cons_append]
    exact List.cons_ne_nil _ _

/-- **Fields with a separator in front of each.** -/
theorem splitOn_eq_nil_cons_iff {sep : Char} {fs : List (List Char)} :
    splitOn sep cs = [] :: fs ↔ (∀ f ∈ fs, sep ∉ f) ∧ cs = fs.flatMap (sep :: ·) := by
  rw [splitOn_eq_iff, joinWith_cons, List.nil_append, List.forall_mem_cons]
  simp

/-- **Two fields**: one separator stands between them. -/
theorem splitOn_eq_pair_iff {sep : Char} {f g : List Char} :
    splitOn sep cs = [f, g] ↔ cs = f ++ sep :: g ∧ sep ∉ f ∧ sep ∉ g := by
  constructor
  · intro hfields
    have hf : f ∈ splitOn sep cs := hfields ▸ List.mem_cons_self
    have hg : g ∈ splitOn sep cs := hfields ▸ List.mem_cons_of_mem _ List.mem_cons_self
    refine ⟨?_, not_mem_of_mem_splitOn hf, not_mem_of_mem_splitOn hg⟩
    rw [← joinWith_splitOn sep cs, hfields]
    rfl
  · rintro ⟨rfl, hf, hg⟩
    rw [splitOn_append hf, splitOn_eq_singleton hg]

end Turnstile.Text
