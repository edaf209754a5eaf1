import Turnstile.Proofs.Text.Blank
import Turnstile.Proofs.Text.Case

namespace Turnstile.Text

/-!
# The words of a text

* `IsWord` holds of texts that are one word.
* `words_word_append` and `words_append_blank`: a word ends at a blank, and texts with a blank between
  them are cut into the words of the one and of the other.
* `words_eq_nil_iff`: exactly a blank text has no words. `words_trimChars`: blanks at the ends do not count.
* `words_flatMap`: mapping letters leaves the words apart.
-/

/-! ### Single words -/

/-- The text is one word: there is something in it, and no blank. -/
structure IsWord (w : List Char) : Prop where
  ne_nil : w ≠ []
  visible : ∀ c ∈ w, isBlank c = false

variable {c : Char} {cs w : List Char}

theorem isWord_of_mem_words (h : w ∈ words cs) : IsWord w := ⟨words_ne_nil cs w h, words_noBlank cs w h⟩

@[simp] theorem words_nil : words [] = [] := by rw [words.eq_def]

theorem words_cons (c : Char) (cs : List Char) : words (c :: cs) = if isBlank c then words cs
    else (c :: cs.takeWhile (!isBlank ·)) :: words (cs.dropWhile (!isBlank ·)) := by
  rw [words.eq_def]

theorem words_cons_of_blank (hc : isBlank c = true) (cs : List Char) : words (c :: cs) = words cs := by
  rw [words_cons, if_pos hc]

/-- **A word ends at a blank** or at the end of the text. -/
theorem words_word_append (hw : IsWord w) {rest : List Char} (hrest : ∀ c ∈ rest.head?, isBlank c = true) :
    words (w ++ rest) = w :: words rest := by
  obtain ⟨hne, hvisible⟩ := hw
  obtain ⟨c, w, rfl⟩ := List.exists_cons_of_ne_nil hne
  have hpos : ∀ d ∈ w, (!isBlank d) = true := fun d hd => by simp [hvisible d (List.mem_cons_of_mem _ hd)]
  have hstop : rest.takeWhile (!isBlank ·) = [] ∧ rest.dropWhile (!isBlank ·) = rest := by
    cases rest with
    | nil => exact ⟨rfl, rfl⟩
    | cons d rest =>
      have hd : ¬ (!isBlank d) = true := by simp [hrest d rfl]
      exact ⟨List.takeWhile_cons_of_neg hd, List.dropWhile_cons_of_neg hd⟩
  rw [List.cons_append, words_cons, if_neg (Bool.eq_false_iff.1 (hvisible c List.mem_cons_self)),
    List.takeWhile_append_of_pos hpos, List.dropWhile_append_of_pos hpos, hstop.1, hstop.2, List.append_nil]

theorem words_word (hw : IsWord w) : words w = [w] := by
  have hcut : words (w ++ []) = w :: words [] := words_word_append hw fun _ h => nomatch h
  rwa [List.append_nil, words_nil] at hcut

/-- A text that does not begin with a blank begins with a word, behind which there is a blank or nothing. -/
theorem isWord_takeWhile (hc : isBlank c = false) (cs : List Char) :
    IsWord (c :: cs.takeWhile (!isBlank ·)) ∧ ∀ d ∈ (cs.dropWhile (!isBlank ·)).head?, isBlank d = true := by
  refine ⟨⟨List.cons_ne_nil _ _, fun d hd => ?_⟩, fun d hd => ?_⟩
  · rcases List.mem_cons.1 hd with rfl | hd
    · exact hc
    · simpa using List.all_eq_true.1 List.all_takeWhile d hd
  · have hnot := List.head?_dropWhile_not (!isBlank ·) cs
    rw [Option.mem_def.1 hd] at hnot
    simpa using hnot

/-! ### Words and blanks -/

/-- **A blank keeps words apart.** -/
theorem words_append_blank (hc : isBlank c = true) (cs ds : List Char) :
    words (cs ++ c :: ds) = words cs ++ words ds := by
  fun_induction words cs with
  | case1 => exact words_cons_of_blank hc ds
  | case2 d cs hd ih => rw [List.cons_append, words_cons_of_blank hd, ih]
  | case3 d cs hd ih =>
    obtain ⟨hword, hrest⟩ := isWord_takeWhile (Bool.eq_false_iff.2 hd) cs
    have hblank : ∀ e ∈ (cs.dropWhile (!isBlank ·) ++ c :: ds).head?, isBlank e = true := by
      intro e he
      rw [List.head?_append, Option.mem_def, Option.or_eq_some_iff] at he
      rcases he with he | ⟨-, he⟩
      · exact hrest e he
      · obtain rfl : c = e := Option.some.inj he
        exact hc
    have hcut := words_word_append hword hblank
    rwa [ih, List.cons_append, ← List.append_assoc, List.takeWhile_append_dropWhile] at hcut

/-- **Exactly a blank text has no words.** -/
theorem words_eq_nil_iff : words cs = [] ↔ ∀ c ∈ cs, isBlank c = true := by
  fun_induction words cs with
  | case1 => simp
  | case2 c cs hc ih => rw [ih, List.forall_mem_cons, and_iff_right hc]
  | case3 c cs hc ih =>
    refine iff_of_false (List.cons_ne_nil _ _) fun h => ?_
    exact hc (h c List.mem_cons_self)

/-- Blanks behind a text do not count, -/
theorem words_append_of_blank {blanks : List Char} (h : ∀ c ∈ blanks, isBlank c = true) (cs : List Char) :
    words (cs ++ blanks) = words cs := by
  cases blanks with
  | nil => rw [List.append_nil]
  | cons c blanks =>
    obtain ⟨hc, hblanks⟩ := List.forall_mem_cons.1 h
    rw [words_append_blank hc, words_eq_nil_iff.2 hblanks, List.append_nil]

/-- nor do those in front of it. -/
theorem words_dropWhile (cs : List Char) : words (cs.dropWhile isBlank) = words cs := by
  induction cs with
  | nil => rfl
  | cons c cs ih =>
    by_cases hc : isBlank c = true
    · rw [List.dropWhile_cons_of_pos hc, ih, words_cons_of_blank hc]
    · rw [List.dropWhile_cons_of_neg hc]

/-- **Trimming leaves the words as they are.** -/
theorem words_trimChars (cs : List Char) : words (trimChars cs) = words cs := by
  obtain ⟨blanks, hblanks, heq⟩ := eq_trimRight_append (trimLeft cs)
  have htrimmed : words (trimLeft cs) = words (trimChars cs) := by
    conv_lhs => rw [heq, words_append_of_blank hblanks]
    rw [trimChars]
  rw [← htrimmed, trimLeft, words_dropWhile]

/-- The characters of words are those of the text. -/
theorem mem_of_mem_words (hw : w ∈ words cs) (hc : c ∈ w) : c ∈ cs := by
  fun_induction words cs with
  | case1 => cases hw
  | case2 d cs hd ih => exact List.mem_cons_of_mem _ (ih hw)
  | case3 d cs hd ih =>
    rcases List.mem_cons.1 hw with rfl | hw
    · exact List.cons_subset_cons d (List.takeWhile_subset _) hc
    · exact List.mem_cons_of_mem _ ((List.dropWhile_sublist _).subset (ih hw))

/-! ### Mapped texts -/

section Maps

variable {f : Char → List Char} (maps : ∀ c, MapsTo c (f c))

include maps

/-- A mapped word is a word. -/
theorem IsWord.flatMap (hw : IsWord w) : IsWord (w.flatMap f) := by
  obtain ⟨c, rest, rfl⟩ := List.exists_cons_of_ne_nil hw.ne_nil
  refine ⟨fun hnil => (maps c).ne_nil ?_, fun d hd => ?_⟩
  · rw [List.flatMap_cons, List.append_eq_nil_iff] at hnil
    exact hnil.1
  · obtain ⟨e, he, hd⟩ := List.mem_flatMap.1 hd
    exact (maps e).visible (hw.visible e he) d hd

/-- **Mapping letters leaves the words apart**, where blanks are left alone. -/
theorem words_flatMap (blank : ∀ c, isBlank c = true → f c = [c]) (cs : List Char) :
    words (cs.flatMap f) = (words cs).map (·.flatMap f) := by
  fun_induction words cs with
  | case1 => exact words_nil
  | case2 c cs hc ih =>
    rw [List.flatMap_cons, blank c hc, List.singleton_append, words_cons_of_blank hc, ih]
  | case3 c cs hc ih =>
    obtain ⟨hword, hrest⟩ := isWord_takeWhile (Bool.eq_false_iff.2 hc) cs
    -- what comes behind the word still begins with a blank
    have hblank : ∀ e ∈ ((cs.dropWhile (!isBlank ·)).flatMap f).head?, isBlank e = true := by
      cases hd : cs.dropWhile (!isBlank ·) with
      | nil => exact fun e he => absurd he (Option.not_mem_none e)
      | cons d ds =>
        have hdblank := hrest d (by rw [hd]; rfl)
        rw [List.flatMap_cons, blank d hdblank]
        intro e he
        obtain rfl : d = e := Option.some.inj he
        exact hdblank
    have hcut := words_word_append (hword.flatMap maps) hblank
    rwa [ih, ← List.flatMap_append, List.cons_append, List.takeWhile_append_dropWhile] at hcut

end Maps

/-- No blank has a capital form of its own. -/
theorem capital_of_blank (hc : isBlank c = true) : capital c = [c] := by
  have happart : mask blanks &&& mask (mapped capitalRuns capitalSequences) = 0 := by decide +kernel
  exact mapCase_of_not_mem (not_mem_of_mask happart (mem_blanks hc))

/-- **The words of a text in capitals** are the words of the text, in capitals. -/
theorem words_upperChars (cs : List Char) : words (upperChars cs) = (words cs).map upperChars :=
  words_flatMap capital_settled.mapsTo (fun _ => capital_of_blank) cs

end Turnstile.Text
