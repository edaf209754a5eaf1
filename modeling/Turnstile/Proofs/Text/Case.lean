import Mathlib.Data.List.Forall2
import Turnstile.Text.Blank
import Turnstile.Text.Case

namespace Turnstile.Text

/-!
# Capital and small forms are final

What the case tables map to is not mapped again, so that a text in capitals stays as it is when it is put in
capitals once more, and likewise for small letters; and no letter is mapped to a blank or to nothing.

* `Settled` says so of a pair of tables. Whether it holds is computed for the whole tables at once: a set
  of code points is a number with one bit for each (`mask`), and two sets are apart if the numbers have
  no bit in common.
* `upperChars_upperChars` and `lowerChars_lowerChars` are what comes of it for texts.
* `MapsTo` holds of a character and what it is mapped to; a mapped text consists of such pieces.
-/

/-! ### Sets of code points -/

/-- The number with the bits of a list. -/
def mask (l : List Nat) : Nat := l.foldr (fun n m => 1 <<< n ||| m) 0

theorem testBit_mask {l : List Nat} {k : Nat} : (mask l).testBit k = true ↔ k ∈ l := by
  induction l with
  | nil => simp [mask]
  | cons n l ih =>
    show (1 <<< n ||| mask l).testBit k = true ↔ _
    rw [Nat.testBit_or, Bool.or_eq_true, ih, List.mem_cons, Nat.one_shiftLeft, Nat.testBit_two_pow,
      decide_eq_true_eq, eq_comm]

/-- Numbers without a common bit belong to lists without a common member. -/
theorem not_mem_of_mask {l l' : List Nat} (h : mask l &&& mask l' = 0) {k : Nat} (hk : k ∈ l) : k ∉ l' := by
  intro hk'
  have hbit : (mask l &&& mask l').testBit k = true := by
    rw [Nat.testBit_and, testBit_mask.2 hk, testBit_mask.2 hk', Bool.and_self]
  rw [h, Nat.zero_testBit] at hbit
  cases hbit

/-- The code points of blanks. -/
def blanks : List Nat :=
  [9, 10, 11, 12, 13, 0x20, 0x85, 0xA0, 0x1680, 0x2000, 0x2001, 0x2002, 0x2003, 0x2004, 0x2005, 0x2006,
    0x2007, 0x2008, 0x2009, 0x200A, 0x2028, 0x2029, 0x202F, 0x205F, 0x3000]

theorem mem_blanks {c : Char} (h : isBlank c = true) : c.toNat ∈ blanks := by
  simp only [isBlank, Bool.or_eq_true, Bool.and_eq_true, decide_eq_true_eq, beq_iff_eq] at h
  simp only [blanks, List.mem_cons, List.not_mem_nil, or_false]
  omega

/-! ### Tables -/

/-- The code points that a run holds. -/
def CaseRun.points (r : CaseRun) : List Nat :=
  (List.range ((r.last - r.first) / r.step + 1)).map (r.first + r.step * ·)

theorem CaseRun.mem_points {r : CaseRun} {n : Nat} (h : r.holds n = true) : n ∈ r.points := by
  simp only [CaseRun.holds, Bool.and_eq_true, decide_eq_true_eq, beq_iff_eq] at h
  obtain ⟨⟨hfirst, hlast⟩, hstep⟩ := h
  rw [CaseRun.points, List.mem_map]
  refine ⟨(n - r.first) / r.step, List.mem_range.2 (Nat.lt_succ_of_le ?_), ?_⟩
  · exact Nat.div_le_div_right (Nat.sub_le_sub_right hlast _)
  · have hdiv := Nat.div_add_mod (n - r.first) r.step
    omega

section Tables

variable {runs : List CaseRun} {sequences : List (Nat × List Nat)} {c d : Char}

/-- The code points that tables map. -/
def mapped (runs : List CaseRun) (sequences : List (Nat × List Nat)) : List Nat :=
  runs.flatMap CaseRun.points ++ sequences.map (·.1)

/-- The characters that tables map to. -/
def images (runs : List CaseRun) (sequences : List (Nat × List Nat)) : List Char :=
  runs.flatMap (fun r => r.points.map r.image) ++ sequences.flatMap fun s => s.2.map Char.ofNat

/-- What tables map to they do not map, and it is neither a blank nor nothing. -/
structure Settled (runs : List CaseRun) (sequences : List (Nat × List Nat)) : Prop where
  apart : ∀ d ∈ images runs sequences, d.toNat ∉ mapped runs sequences
  visible : ∀ d ∈ images runs sequences, isBlank d = false
  nonempty : ∀ s ∈ sequences, s.2 ≠ []

/-- It is enough to compare two numbers. -/
theorem settled_of_mask
    (h : mask ((images runs sequences).map Char.toNat) &&& mask (blanks ++ mapped runs sequences) = 0)
    (nonempty : ∀ s ∈ sequences, s.2 ≠ []) : Settled runs sequences := by
  have hnot (d : Char) (hd : d ∈ images runs sequences) : d.toNat ∉ blanks ++ mapped runs sequences :=
    not_mem_of_mask h (List.mem_map_of_mem hd)
  refine ⟨fun d hd hmapped => hnot d hd (List.mem_append_right _ hmapped), fun d hd => ?_, nonempty⟩
  rw [← Bool.not_eq_true]
  exact fun hblank => hnot d hd (List.mem_append_left _ (mem_blanks hblank))

/-- What comes of a character is in the tables, or the character is not in them. -/
theorem mapCase_cases (c : Char) : (mapCase runs sequences c ≠ [] ∨ ∃ s ∈ sequences, s.2 = []) ∧
    ∀ d ∈ mapCase runs sequences c, d ∈ images runs sequences ∨ mapCase runs sequences c = [c] := by
  rw [mapCase]
  cases hrun : runs.find? (·.holds c.toNat) with
  | some r =>
    have hholds := List.find?_some hrun
    refine ⟨.inl (List.cons_ne_nil _ _), fun d hd => .inl ?_⟩
    obtain rfl := List.mem_singleton.1 hd
    refine List.mem_append_left _ (List.mem_flatMap.2 ⟨r, List.mem_of_find?_eq_some hrun, ?_⟩)
    exact List.mem_map_of_mem (CaseRun.mem_points hholds)
  | none =>
    cases hseq : sequences.find? (·.1 == c.toNat) with
    | some s =>
      have hmem := List.mem_of_find?_eq_some hseq
      refine ⟨?_, fun d hd => .inl (List.mem_append_right _ (List.mem_flatMap.2 ⟨s, hmem, hd⟩))⟩
      by_cases hnil : s.2 = []
      · exact .inr ⟨s, hmem, hnil⟩
      · exact .inl fun h => hnil (List.map_eq_nil_iff.1 h)
    | none => exact ⟨.inl (List.cons_ne_nil _ _), fun _ _ => .inr rfl⟩

/-- A character that the tables do not map stays as it is. -/
theorem mapCase_of_not_mem (h : c.toNat ∉ mapped runs sequences) : mapCase runs sequences c = [c] := by
  have hrun : runs.find? (·.holds c.toNat) = none := by
    rw [List.find?_eq_none]
    intro r hr hholds
    exact h (List.mem_append_left _ (List.mem_flatMap.2 ⟨r, hr, CaseRun.mem_points hholds⟩))
  have hseq : sequences.find? (·.1 == c.toNat) = none := by
    rw [List.find?_eq_none]
    intro s hs heq
    exact h (List.mem_append_right _ (List.mem_map.2 ⟨s, hs, beq_iff_eq.1 heq⟩))
  rw [mapCase, hrun, hseq]

namespace Settled

variable (settled : Settled runs sequences)

include settled

theorem ne_nil (c : Char) : mapCase runs sequences c ≠ [] :=
  (mapCase_cases c).1.resolve_right fun ⟨s, hs, hnil⟩ => settled.nonempty s hs hnil

/-- What comes of a character stays as it is. -/
theorem final (hd : d ∈ mapCase runs sequences c) : mapCase runs sequences d = [d] := by
  rcases (mapCase_cases c).2 d hd with himage | hsame
  · exact mapCase_of_not_mem (settled.apart d himage)
  · rw [hsame, List.mem_singleton] at hd
    rw [hd, hsame]

/-- No blank comes of a character that is none. -/
theorem isBlank_eq_false (hc : isBlank c = false) (hd : d ∈ mapCase runs sequences c) :
    isBlank d = false := by
  rcases (mapCase_cases c).2 d hd with himage | hsame
  · exact settled.visible d himage
  · rw [hsame, List.mem_singleton] at hd
    rwa [hd]

end Settled

end Tables

theorem capital_settled : Settled capitalRuns capitalSequences :=
  settled_of_mask (by decide +kernel) (by decide)

theorem small_settled : Settled smallRuns smallSequences :=
  settled_of_mask (by decide +kernel) (by decide)

/-! ### Texts -/

/-- **What tables make of a text stays as it is.** -/
theorem Settled.flatMap_flatMap {runs : List CaseRun} {sequences : List (Nat × List Nat)}
    (settled : Settled runs sequences) (cs : List Char) :
    (cs.flatMap (mapCase runs sequences)).flatMap (mapCase runs sequences)
      = cs.flatMap (mapCase runs sequences) := by
  refine (List.flatMap_congr fun d hd => ?_).trans (List.flatMap_singleton' _)
  obtain ⟨c, -, hc⟩ := List.mem_flatMap.1 hd
  exact settled.final hc

/-- **Capitals stay as they are.** -/
theorem upperChars_upperChars (cs : List Char) : upperChars (upperChars cs) = upperChars cs :=
  capital_settled.flatMap_flatMap cs

/-- Only small letters come of putting a text in small letters. -/
theorem small_of_mem_lowerFrom {before cs : List Char} {d : Char} (hd : d ∈ lowerFrom before cs) :
    small d = [d] := by
  induction cs generalizing before with
  | nil => cases hd
  | cons c cs ih =>
    rcases List.mem_append.1 hd with hd | hd
    · split at hd
      · -- a sigma is small in either form
        rw [List.mem_singleton, smallSigma] at hd
        subst hd
        split <;> decide +kernel
      · exact small_settled.final hd
    · exact ih hd

/-- Small letters stay as they are, whatever comes before them. -/
theorem lowerFrom_of_small {before ds : List Char} (hds : ∀ d ∈ ds, small d = [d]) :
    lowerFrom before ds = ds := by
  induction ds generalizing before with
  | nil => rfl
  | cons d ds ih =>
    have hd := hds d List.mem_cons_self
    have hsigma : d ≠ 'Σ' := by
      rintro rfl
      revert hd
      decide +kernel
    rw [lowerFrom, if_neg hsigma, hd, ih fun e he => hds e (List.mem_cons_of_mem _ he)]
    rfl

/-- **Small letters stay as they are.** -/
theorem lowerChars_lowerChars (cs : List Char) : lowerChars (lowerChars cs) = lowerChars cs :=
  lowerFrom_of_small fun _ hd => small_of_mem_lowerFrom hd

/-! ### Pieces -/

/-- What a character has been mapped to: something, and no blank unless the character is one. -/
structure MapsTo (c : Char) (piece : List Char) : Prop where
  ne_nil : piece ≠ []
  visible : isBlank c = false → ∀ d ∈ piece, isBlank d = false

theorem Settled.mapsTo {runs : List CaseRun} {sequences : List (Nat × List Nat)}
    (settled : Settled runs sequences) (c : Char) : MapsTo c (mapCase runs sequences c) :=
  ⟨settled.ne_nil c, fun hc _ hd => settled.isBlank_eq_false hc hd⟩

/-- A text in capitals consists of the pieces of its characters. -/
theorem upperChars_pieces (cs : List Char) :
    ∃ pieces, List.Forall₂ MapsTo cs pieces ∧ upperChars cs = pieces.flatten := by
  refine ⟨cs.map capital, ?_, List.flatMap_def⟩
  rw [List.forall₂_map_right_iff, List.forall₂_same]
  exact fun c _ => capital_settled.mapsTo c

/-- So does a text in small letters. -/
theorem lowerFrom_pieces (before cs : List Char) :
    ∃ pieces, List.Forall₂ MapsTo cs pieces ∧ lowerFrom before cs = pieces.flatten := by
  induction cs generalizing before with
  | nil => exact ⟨[], .nil, rfl⟩
  | cons c cs ih =>
    obtain ⟨pieces, hpieces, heq⟩ := ih (c :: before)
    refine ⟨_ :: pieces, .cons ?_ hpieces, by rw [lowerFrom, heq]; rfl⟩
    split
    · refine ⟨List.cons_ne_nil _ _, fun _ d hd => ?_⟩
      rw [List.mem_singleton, smallSigma] at hd
      subst hd
      split <;> decide
    · exact small_settled.mapsTo c

end Turnstile.Text
