import Mathlib.Data.List.TakeWhile
import Turnstile.Text.Blank

namespace Turnstile.Text

/-!
# Blanks around a text

* `trimRight_append` and `trimRight_eq_of_blank`: only the blanks behind the last other character are dropped
  from the end, and they all are.
* `Trimmed` holds of texts without blanks at either end; it holds of what is left of any text, and there is
  nothing more to trim from such a text.
* `trim_eq_empty_iff`: nothing is left of a text exactly if it is all blanks.
* `trim_surrounded`: blanks around a text do not count.
-/

/-! ### Blanks behind a text -/

theorem trimRight_append {cs : List Char} {c : Char} (hc : isBlank c = false) (w : List Char) :
    trimRight (cs ++ c :: w) = cs ++ c :: trimRight w := by
  have hstop : ∀ l : List Char, ((l ++ c :: cs.reverse).dropWhile isBlank)
      = l.dropWhile isBlank ++ c :: cs.reverse := by
    intro l
    induction l with
    | nil => simp [List.dropWhile, hc]
    | cons d l ih =>
      by_cases hd : isBlank d = true
      · simp only [List.cons_append, List.dropWhile_cons_of_pos hd, ih]
      · simp only [List.cons_append, List.dropWhile_cons_of_neg hd]
  simp [trimRight, hstop]

/-- A text is what is left of it without the blanks at its end, with these blanks behind it. -/
theorem eq_trimRight_append (cs : List Char) :
    ∃ w, (∀ c ∈ w, isBlank c = true) ∧ cs = trimRight cs ++ w := by
  refine ⟨(cs.reverse.takeWhile isBlank).reverse, ?_, ?_⟩
  · intro c hc
    exact List.all_eq_true.1 List.all_takeWhile c (List.mem_reverse.1 hc)
  · rw [trimRight, ← List.reverse_append, List.takeWhile_append_dropWhile, List.reverse_reverse]

/-- Blanks behind a text that ends otherwise are dropped. -/
theorem trimRight_eq_of_blank {cs w : List Char} (hcs : ∀ c ∈ cs, isBlank c = false)
    (hw : ∀ c ∈ w, isBlank c = true) : trimRight (cs ++ w) = cs := by
  have hkeep : cs.reverse.dropWhile isBlank = cs.reverse := by
    cases hrev : cs.reverse with
    | nil => rfl
    | cons c rest =>
      have hc := hcs c (List.mem_reverse.1 (by rw [hrev]; exact List.mem_cons_self))
      exact List.dropWhile_cons_of_neg (by rw [hc]; exact Bool.false_ne_true)
  rw [trimRight, List.reverse_append,
    List.dropWhile_append_of_pos fun c hc => hw c (List.mem_reverse.1 hc), hkeep, List.reverse_reverse]

/-! ### Blanks at the ends -/

/-- The text does not begin with a blank. -/
def NoBlankFirst (cs : List Char) : Prop := ∀ c ∈ cs.head?, isBlank c = false

/-- The text neither begins nor ends with a blank. -/
structure Trimmed (cs : List Char) : Prop where
  first : NoBlankFirst cs
  last : NoBlankFirst cs.reverse

theorem noBlankFirst_dropWhile (cs : List Char) : NoBlankFirst (cs.dropWhile isBlank) := by
  induction cs with
  | nil => exact fun _ h => nomatch h
  | cons c cs ih =>
    by_cases hc : isBlank c = true
    · rwa [List.dropWhile_cons_of_pos hc]
    · rw [List.dropWhile_cons_of_neg hc]
      intro d hd
      obtain rfl : c = d := Option.some.inj hd
      exact Bool.eq_false_iff.2 hc

theorem dropWhile_of_noBlankFirst {cs : List Char} (h : NoBlankFirst cs) : cs.dropWhile isBlank = cs := by
  cases cs with
  | nil => rfl
  | cons c cs => exact List.dropWhile_cons_of_neg (Bool.eq_false_iff.1 (h c rfl))

/-- Dropping from the end does not touch the beginning. -/
theorem noBlankFirst_trimRight {cs : List Char} (h : NoBlankFirst cs) : NoBlankFirst (trimRight cs) := by
  obtain ⟨w, -, hw⟩ := eq_trimRight_append cs
  intro c hc
  refine h c ?_
  rw [hw, List.head?_append, Option.mem_def.1 hc]
  rfl

theorem trimmed_trimChars (cs : List Char) : Trimmed (trimChars cs) := by
  refine ⟨noBlankFirst_trimRight (noBlankFirst_dropWhile cs), ?_⟩
  rw [trimChars, trimRight, List.reverse_reverse]
  exact noBlankFirst_dropWhile _

/-- Nothing is left of a text that is all blanks, and of no other. -/
theorem trim_eq_empty_iff {s : String} : trim s = "" ↔ ∀ c ∈ s.toList, isBlank c = true := by
  have hright (cs : List Char) : trimRight cs = [] ↔ ∀ c ∈ cs, isBlank c = true := by
    rw [trimRight, List.reverse_eq_nil_iff, List.dropWhile_eq_nil_iff]
    exact forall_congr' fun c => by rw [List.mem_reverse]
  -- what the left end begins with is not a blank, so only an empty rest is all blanks
  have hleft : (∀ c ∈ trimLeft s.toList, isBlank c = true) ↔ ∀ c ∈ s.toList, isBlank c = true := by
    rw [← List.dropWhile_eq_nil_iff, trimLeft, dropWhile_of_noBlankFirst (noBlankFirst_dropWhile _),
      List.dropWhile_eq_nil_iff]
  rw [trim, ← String.toList_inj, String.toList_ofList, trimChars]
  exact (hright _).trans hleft

/-- There is nothing to trim in a trimmed text. -/
theorem Trimmed.trimChars_eq {cs : List Char} (h : Trimmed cs) : trimChars cs = cs := by
  rw [trimChars, trimLeft, dropWhile_of_noBlankFirst h.first, trimRight, dropWhile_of_noBlankFirst h.last,
    List.reverse_reverse]

/-- Blanks put around a text do not count. -/
theorem trim_surrounded {front back : String} (hfront : ∀ c ∈ front.toList, isBlank c = true)
    (hback : ∀ c ∈ back.toList, isBlank c = true) (s : String) : trim (front ++ s ++ back) = trim s := by
  have hright (cs : List Char) : trimRight (cs ++ back.toList) = trimRight cs := by
    rw [trimRight, List.reverse_append,
      List.dropWhile_append_of_pos fun c hc => hback c (List.mem_reverse.1 hc), trimRight]
  have hempty : back.toList.dropWhile isBlank = [] := List.dropWhile_eq_nil_iff.2 hback
  rw [trim, trim, String.toList_append, String.toList_append, List.append_assoc, trimChars, trimLeft,
    List.dropWhile_append_of_pos hfront, List.dropWhile_append, hempty]
  split
  · next hnil =>
    -- the text itself is all blanks
    rw [trimChars, trimLeft, List.isEmpty_iff.1 hnil]
  · rw [hright, trimChars, trimLeft]

end Turnstile.Text
