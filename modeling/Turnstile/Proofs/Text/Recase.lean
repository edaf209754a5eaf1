import Turnstile.Email
import Turnstile.Proofs.Text.Blank
import Turnstile.Proofs.Text.Case

namespace Turnstile

/-!
# Addresses that are typed in another way

Capitals and small letters of the ASCII alphabet, and blanks around the text, make no difference to an
address.

* `Text.lowerChars_map_toLower`: the case of ASCII letters is lost in the small form. They count as
  letters with case in either case, so a sigma in front of them or behind them does not tell them apart.
* `Email.Respelled` is "the same text, typed in another way".
* `Email.Respelled.canonical_eq`: the stored form is the same.
-/

namespace Text

/-! ### ASCII letters -/

/-- The ASCII alphabet in capitals. -/
def asciiCapital (n : Fin 26) : Char := Char.ofNat (65 + n)

/-- Other characters are left as they are. -/
theorem toLower_cases (c : Char) : (∃ n, c = asciiCapital n) ∨ c.toLower = c := by
  unfold Char.toLower
  split
  · next hrange =>
    have hbounds : 65 ≤ c.toNat ∧ c.toNat ≤ 90 := hrange
    refine .inl ⟨⟨c.toNat - 65, by omega⟩, ?_⟩
    rw [asciiCapital, show 65 + (c.toNat - 65) = c.toNat by omega, Char.ofNat_toNat]
  · exact .inr rfl

theorem toNat_toUpper (c : Char) :
    c.toUpper.toNat = if 97 ≤ c.toNat ∧ c.toNat ≤ 122 then c.toNat - 32 else c.toNat := by
  have hrange : ('a'.val ≤ c.val ∧ c.val ≤ 'z'.val) ↔ 97 ≤ c.toNat ∧ c.toNat ≤ 122 := Iff.rfl
  unfold Char.toUpper
  by_cases h : 97 ≤ c.toNat ∧ c.toNat ≤ 122
  · rw [dif_pos (hrange.2 h), if_pos h]
    show (c.val + ('A'.val - 'a'.val)).toNat = c.toNat - 32
    rw [UInt32.toNat_add]
    show (c.toNat + 4294967264) % 4294967296 = c.toNat - 32
    omega
  · rw [dif_neg (mt hrange.1 h), if_neg h]

theorem toNat_toLower (c : Char) :
    c.toLower.toNat = if 65 ≤ c.toNat ∧ c.toNat ≤ 90 then c.toNat + 32 else c.toNat := by
  have hrange : ('A'.val ≤ c.val ∧ c.val ≤ 'Z'.val) ↔ 65 ≤ c.toNat ∧ c.toNat ≤ 90 := Iff.rfl
  unfold Char.toLower
  by_cases h : 65 ≤ c.toNat ∧ c.toNat ≤ 90
  · rw [dif_pos (hrange.2 h), if_pos h]
    show (c.val + ('a'.val - 'A'.val)).toNat = c.toNat + 32
    rw [UInt32.toNat_add]
    show (c.toNat + 32) % 4294967296 = c.toNat + 32
    omega
  · rw [dif_neg (mt hrange.1 h), if_neg h]

/-- Characters with the same small form have the same capital form, and the other way round. -/
theorem toUpper_eq_toUpper_iff {c d : Char} : c.toUpper = d.toUpper ↔ c.toLower = d.toLower := by
  simp only [← Char.toNat_inj, toNat_toUpper, toNat_toLower]
  split <;> split <;> split <;> split <;> omega

/-- What holds of all ASCII capitals beside their small letters holds of all characters. -/
theorem apply_toLower {α : Type} {f : Char → α} (h : ∀ n, f (asciiCapital n).toLower = f (asciiCapital n))
    (c : Char) : f c.toLower = f c := by
  rcases toLower_cases c with ⟨n, rfl⟩ | hsame
  · exact h n
  · rw [hsame]

theorem isBlank_toLower (c : Char) : isBlank c.toLower = isBlank c :=
  apply_toLower (by decide +kernel) c

theorem small_toLower (c : Char) : small c.toLower = small c :=
  apply_toLower (by decide +kernel) c

theorem isSigma_toLower (c : Char) : (c.toLower = 'Σ') = (c = 'Σ') :=
  propext (by
    have h := apply_toLower (f := fun c => decide (c = 'Σ')) (by decide +kernel) c
    simpa using h)

theorem cased_toLower (c : Char) : inRanges casedRanges c.toLower = inRanges casedRanges c :=
  apply_toLower (by decide +kernel) c

theorem caseIgnorable_toLower (c : Char) :
    inRanges caseIgnorableRanges c.toLower = inRanges caseIgnorableRanges c :=
  apply_toLower (by decide +kernel) c

/-! ### Texts -/

variable (cs : List Char)

/-- So it is with texts: it does not matter whether they are compared in capitals or in small letters. -/
theorem map_toUpper_eq_iff {cs ds : List Char} :
    cs.map Char.toUpper = ds.map Char.toUpper ↔ cs.map Char.toLower = ds.map Char.toLower := by
  induction cs generalizing ds with
  | nil => cases ds <;> simp
  | cons c cs ih =>
    cases ds with
    | nil => simp
    | cons d ds => simp only [List.map_cons, List.cons.injEq, toUpper_eq_toUpper_iff, ih]

theorem dropWhile_map_toLower {p : Char → Bool} (hp : ∀ c, p c.toLower = p c) :
    (cs.map Char.toLower).dropWhile p = (cs.dropWhile p).map Char.toLower := by
  rw [List.dropWhile_map]
  congr 2
  exact funext hp

theorem startsCased_map_toLower : startsCased (cs.map Char.toLower) = startsCased cs := by
  unfold startsCased
  rw [dropWhile_map_toLower cs caseIgnorable_toLower]
  cases cs.dropWhile (inRanges caseIgnorableRanges) with
  | nil => rfl
  | cons c _ => exact cased_toLower c

theorem lowerFrom_map_toLower (before : List Char) :
    lowerFrom (before.map Char.toLower) (cs.map Char.toLower) = lowerFrom before cs := by
  induction cs generalizing before with
  | nil => rfl
  | cons c cs ih =>
    have hsigma : smallSigma (before.map Char.toLower) (cs.map Char.toLower) = smallSigma before cs := by
      simp only [smallSigma, startsCased_map_toLower]
    have hrest := ih (c :: before)
    rw [List.map_cons] at hrest
    rw [List.map_cons, lowerFrom, lowerFrom, hrest, hsigma, small_toLower]
    simp only [isSigma_toLower]

/-- **The case of ASCII letters is lost** in the small form of a text. -/
theorem lowerChars_map_toLower : lowerChars (cs.map Char.toLower) = lowerChars cs :=
  lowerFrom_map_toLower cs []

/-- The texts are the same but for the case of ASCII letters. -/
def SameLetters (s t : String) : Prop := s.toList.map Char.toLower = t.toList.map Char.toLower

theorem toLower_eq_toLower_iff {s t : String} : s.toLower = t.toLower ↔ SameLetters s t := by
  have hsmall (s : String) : s.toLower.toList = s.toList.map Char.toLower := String.toList_map
  rw [SameLetters, ← String.toList_inj, hsmall, hsmall]

theorem toUpper_eq_toUpper_iff_sameLetters {s t : String} : s.toUpper = t.toUpper ↔ SameLetters s t := by
  have hcapital (s : String) : s.toUpper.toList = s.toList.map Char.toUpper := String.toList_map
  rw [SameLetters, ← map_toUpper_eq_iff, ← String.toList_inj, hcapital, hcapital]

theorem trimChars_map_toLower : trimChars (cs.map Char.toLower) = (trimChars cs).map Char.toLower := by
  simp only [trimChars, trimLeft, trimRight, dropWhile_map_toLower _ isBlank_toLower, ← List.map_reverse]

end Text

/-! ### Addresses -/

namespace Email

open Text

/-- The second text is the first one, typed in another way: ASCII letters may be in the other case, and
    there may be more or fewer blanks at the ends. -/
inductive Respelled : String → String → Prop where
  | recased {s t : String} (same : s.toList.map Char.toLower = t.toList.map Char.toLower) : Respelled s t
  | padded {front back : String} (hfront : ∀ c ∈ front.toList, isBlank c = true)
      (hback : ∀ c ∈ back.toList, isBlank c = true) (s : String) : Respelled s (front ++ s ++ back)
  | stripped {front back : String} (hfront : ∀ c ∈ front.toList, isBlank c = true)
      (hback : ∀ c ∈ back.toList, isBlank c = true) (s : String) : Respelled (front ++ s ++ back) s
  | trans {s t u : String} (first : Respelled s t) (second : Respelled t u) : Respelled s u

namespace Respelled

theorem refl (s : String) : Respelled s s := .recased rfl

theorem symm {s t : String} (h : Respelled s t) : Respelled t s := by
  induction h with
  | recased same => exact .recased same.symm
  | padded hfront hback s => exact .stripped hfront hback s
  | stripped hfront hback s => exact .padded hfront hback s
  | trans _ _ ihfirst ihsecond => exact ihsecond.trans ihfirst

/-- **The stored form is the same**, however the address is typed. -/
theorem canonical_eq {s t : String} (h : Respelled s t) : canonical t = canonical s := by
  have htrim {s t : String} (htrim : Text.trim s = Text.trim t) : canonical s = canonical t := by
    have hchars := congrArg String.toList htrim
    simp only [Text.trim, String.toList_ofList] at hchars
    simp only [canonical, canonicalChars, hchars]
  induction h with
  | @recased s t same =>
    have hchars (s : String) :
        canonicalChars s.toList = lowerChars (trimChars (s.toList.map Char.toLower)) := by
      rw [trimChars_map_toLower, lowerChars_map_toLower, canonicalChars]
    simp only [canonical, hchars, same]
  | padded hfront hback s => exact htrim (trim_surrounded hfront hback s)
  | stripped hfront hback s => exact htrim (trim_surrounded hfront hback s).symm
  | trans _ _ ihfirst ihsecond => exact ihsecond.trans ihfirst

end Respelled

end Email

end Turnstile
