namespace Turnstile.Text

/-!
# Blanks: trimming and words

White space is the `White_Space` property of Unicode, not just the ASCII blanks.

* `isBlank` decides the property.
* `trim` drops blanks from both ends of a text.
* `words` cuts a text into its maximal runs without blanks; no word is empty (`words_ne_nil`)
  and none holds a blank (`words_noBlank`).
-/

/-- The characters with the `White_Space` property. -/
def isBlank (c : Char) : Bool :=
  let n := c.toNat
  (9 ≤ n && n ≤ 13) || n == 0x20 || n == 0x85 || n == 0xA0 || n == 0x1680
    || (0x2000 ≤ n && n ≤ 0x200A) || n == 0x2028 || n == 0x2029 || n == 0x202F
    || n == 0x205F || n == 0x3000

/-! ### Trimming -/

/-- Drop leading blanks. -/
def trimLeft (cs : List Char) : List Char := cs.dropWhile isBlank

/-- Drop trailing blanks. -/
def trimRight (cs : List Char) : List Char := (cs.reverse.dropWhile isBlank).reverse

/-- Drop blanks from both ends. -/
def trimChars (cs : List Char) : List Char := trimRight (trimLeft cs)

/-- The text without the blanks at its ends. -/
def trim (s : String) : String := String.ofList (trimChars s.toList)

/-! ### Words -/

/-- The maximal runs of characters that are not blank, in order. -/
def words : List Char → List (List Char)
  | [] => []
  | c :: cs =>
    if isBlank c then words cs
    else (c :: cs.takeWhile (!isBlank ·)) :: words (cs.dropWhile (!isBlank ·))
termination_by cs => cs.length
decreasing_by
  · simp
  · exact Nat.lt_succ_of_le (List.dropWhile_suffix _).length_le

/-- No word is empty. -/
theorem words_ne_nil (cs : List Char) : ∀ w ∈ words cs, w ≠ [] := by
  fun_induction words cs with
  | case1 => simp
  | case2 c cs h ih => exact ih
  | case3 c cs h ih =>
    intro w hw
    rcases List.mem_cons.1 hw with rfl | hw
    · simp
    · exact ih w hw

/-- No word holds a blank. -/
theorem words_noBlank (cs : List Char) : ∀ w ∈ words cs, ∀ c ∈ w, isBlank c = false := by
  fun_induction words cs with
  | case1 => simp
  | case2 c cs h ih => exact ih
  | case3 c cs h ih =>
    intro w hw d hd
    rcases List.mem_cons.1 hw with rfl | hw
    · rcases List.mem_cons.1 hd with rfl | hd
      · simpa using h
      · simpa using List.all_eq_true.1 List.all_takeWhile d hd
    · exact ih w hw d hd

end Turnstile.Text
