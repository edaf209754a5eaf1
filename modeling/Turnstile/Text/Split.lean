namespace Turnstile.Text

/-!
# Fields between separators

* `splitOn` cuts a text at every occurrence of a character; there is one field more than there are
  separators, and fields may be empty.
* `joinWith` puts fields together again; it undoes `splitOn` (`joinWith_splitOn`).
-/

/-- Put a character in front of the first field. -/
def consField (c : Char) : List (List Char) → List (List Char)
  | [] => [[c]]
  | f :: fs => (c :: f) :: fs

/-- The fields between separators. -/
def splitOn (sep : Char) : List Char → List (List Char)
  | [] => [[]]
  | c :: cs => if c = sep then [] :: splitOn sep cs else consField c (splitOn sep cs)

/-- The fields with a separator between neighbours. -/
def joinWith (sep : Char) : List (List Char) → List Char
  | [] => []
  | [f] => f
  | f :: fs => f ++ sep :: joinWith sep fs

theorem splitOn_ne_nil (sep : Char) (cs : List Char) : splitOn sep cs ≠ [] := by
  cases cs with
  | nil => simp [splitOn]
  | cons c cs =>
    rw [splitOn]
    split
    · simp
    · cases splitOn sep cs <;> simp [consField]

theorem joinWith_consField (sep c : Char) {fs : List (List Char)} (h : fs ≠ []) :
    joinWith sep (consField c fs) = c :: joinWith sep fs := by
  match fs, h with
  | [f], _ => rfl
  | f :: g :: fs, _ => rfl

/-- Joining the fields gives the text back. -/
theorem joinWith_splitOn (sep : Char) (cs : List Char) : joinWith sep (splitOn sep cs) = cs := by
  induction cs with
  | nil => rfl
  | cons c cs ih =>
    rw [splitOn]
    split
    · rename_i h
      obtain ⟨f, fs, hs⟩ := List.exists_cons_of_ne_nil (splitOn_ne_nil sep cs)
      rw [hs] at ih ⊢
      simp [joinWith, ih, h]
    · rw [joinWith_consField sep c (splitOn_ne_nil sep cs), ih]

/-- A text without the separator is one field. -/
theorem splitOn_eq_singleton {sep : Char} {cs : List Char} (h : sep ∉ cs) :
    splitOn sep cs = [cs] := by
  induction cs with
  | nil => rfl
  | cons c cs ih =>
    simp only [List.mem_cons, not_or] at h
    rw [splitOn, if_neg (Ne.symm h.1), ih h.2]
    rfl

/-- The first field ends at the first separator. -/
theorem splitOn_append {sep : Char} {f : List Char} (h : sep ∉ f) (cs : List Char) :
    splitOn sep (f ++ sep :: cs) = f :: splitOn sep cs := by
  induction f with
  | nil => simp [splitOn]
  | cons c f ih =>
    simp only [List.mem_cons, not_or] at h
    rw [List.cons_append, splitOn, if_neg (Ne.symm h.1), ih h.2]
    rfl

end Turnstile.Text
