namespace Turnstile.Text

/-!
# Texts that come apart

Where it can be seen in a text how far each of its parts goes, the parts of two equal texts are equal.

* `append_inj_of_free`: a part goes as far as there is none of certain characters in it.
* `CutsOff` says that of one value of a kind: its text comes apart from whatever stands behind it.
* `flatMap_append_inj` and `intercalate_append_inj`: then so do the texts of many, one behind the other.
-/

/-! ### One part -/

/-- The text is over, or goes on with one of the characters. -/
def EndsAt (stops rest : List Char) : Prop := ∀ c ∈ rest.head?, c ∈ stops

variable {stops t t' rest rest' : List Char}

theorem endsAt_nil : EndsAt stops [] := fun _ h => nomatch h

theorem endsAt_cons {c : Char} (hc : c ∈ stops) : EndsAt stops (c :: rest) := by
  intro d hd
  obtain rfl : c = d := Option.some.inj hd
  exact hc

/-- **Up to a stop**: what is in front of the first of the characters is the same in equal texts. -/
theorem append_inj_of_free (ht : ∀ c ∈ t, c ∉ stops) (ht' : ∀ c ∈ t', c ∉ stops) (hrest : EndsAt stops rest)
    (hrest' : EndsAt stops rest') (h : t ++ rest = t' ++ rest') : t = t' ∧ rest = rest' := by
  -- where one part is over and the other is not, the next character is a stop by the one and none by
  -- the other
  induction t generalizing t' with
  | nil =>
    cases t' with
    | nil => exact ⟨rfl, h⟩
    | cons d t' =>
      have hd : d ∈ stops := by
        refine hrest d ?_
        rw [List.nil_append] at h
        rw [h]
        rfl
      exact absurd hd (ht' d List.mem_cons_self)
  | cons c t ih =>
    cases t' with
    | nil =>
      have hc : c ∈ stops := by
        refine hrest' c ?_
        rw [List.nil_append] at h
        rw [← h]
        rfl
      exact absurd hc (ht c List.mem_cons_self)
    | cons d t' =>
      obtain ⟨hhead, htail⟩ := List.cons.inj h
      obtain ⟨hsame, hrest⟩ := ih (List.forall_mem_cons.1 ht).2 (List.forall_mem_cons.1 ht').2 htail
      exact ⟨by rw [hhead, hsame], hrest⟩

/-! ### Whole numbers -/

/-- A natural number is written in digits, -/
theorem isDigit_of_mem_repr {n : Nat} {c : Char} (hc : c ∈ n.repr.toList) : c.isDigit = true := by
  rw [Nat.repr_eq_ofList_toDigits, String.toList_ofList] at hc
  exact Nat.isDigit_of_mem_toDigits (by decide) (by decide) hc

/-- and a whole number with a sign in front of them at most. -/
theorem isDigit_of_mem_toString {n : Int} {c : Char} (hc : c ∈ (toString n).toList) :
    c.isDigit = true ∨ c = '-' := by
  cases n with
  | ofNat m => exact .inl (isDigit_of_mem_repr hc)
  | negSucc m =>
    have hsign : (toString (Int.negSucc m)).toList = '-' :: (m + 1).repr.toList := by
      show ("-" ++ (m + 1).repr).toList = _
      rw [String.toList_append]
      rfl
    rw [hsign] at hc
    rcases List.mem_cons.1 hc with rfl | hc
    · exact .inr rfl
    · exact .inl (isDigit_of_mem_repr hc)

theorem toString_ne_nil (n : Int) : (toString n).toList ≠ [] := by
  cases n with
  | ofNat m =>
    show m.repr.toList ≠ []
    rw [Nat.repr_eq_ofList_toDigits, String.toList_ofList]
    exact Nat.toDigits_ne_nil
  | negSucc m =>
    show ("-" ++ (m + 1).repr).toList ≠ []
    rw [String.toList_append]
    exact List.cons_ne_nil _ _

/-! ### Many parts -/

section Values

variable {α : Type} {text : α → List Char} {a : α} {as bs : List α}

/-- The text of the value comes apart from what stands behind it: no other value has the same text in
    front of a stop. -/
def CutsOff (stops : List Char) (text : α → List Char) (a : α) : Prop :=
  ∀ b rest rest', EndsAt stops rest → EndsAt stops rest' → text a ++ rest = text b ++ rest' →
    a = b ∧ rest = rest'

theorem endsAt_flatMap {sep close : Char} (hsep : sep ∈ stops) (hclose : close ∈ stops) :
    EndsAt stops (as.flatMap (fun a => sep :: text a) ++ close :: rest) := by
  cases as with
  | nil => exact endsAt_cons hclose
  | cons a as => exact endsAt_cons hsep

/-- **Values behind separators**, with a closing character behind the last, come apart. -/
theorem flatMap_append_inj {sep close : Char} (hsep : sep ∈ stops) (hclose : close ∈ stops)
    (hne : sep ≠ close) (hcuts : ∀ a ∈ as, CutsOff stops text a)
    (h : as.flatMap (fun a => sep :: text a) ++ close :: rest
      = bs.flatMap (fun b => sep :: text b) ++ close :: rest') :
    as = bs ∧ rest = rest' := by
  induction as generalizing bs with
  | nil =>
    cases bs with
    | nil => exact ⟨rfl, (List.cons.inj h).2⟩
    | cons b bs => exact absurd (List.cons.inj h).1.symm hne
  | cons a as ih =>
    cases bs with
    | nil => exact absurd (List.cons.inj h).1 hne
    | cons b bs =>
      obtain ⟨hcut, hcuts⟩ := List.forall_mem_cons.1 hcuts
      simp only [List.flatMap_cons, List.cons_append, List.append_assoc, List.cons.injEq, true_and] at h
      obtain ⟨hfirst, hothers⟩ := hcut b _ _ (endsAt_flatMap hsep hclose) (endsAt_flatMap hsep hclose) h
      obtain ⟨hsame, hrest⟩ := ih hcuts hothers
      exact ⟨by rw [hfirst, hsame], hrest⟩

/-- Texts with a separator between them. -/
theorem toList_intercalate_cons (sep first : String) (others : List String) :
    (sep.intercalate (first :: others)).toList
      = first.toList ++ others.flatMap fun other => sep.toList ++ other.toList := by
  induction others generalizing first with
  | nil => simp
  | cons other others ih =>
    rw [String.intercalate_cons_of_ne_nil (List.cons_ne_nil _ _), String.toList_append,
      String.toList_append, ih, List.flatMap_cons, List.append_assoc, List.append_assoc]

/-- **Values with commas between them**, and a closing bracket behind the last, come apart. -/
theorem intercalate_append_inj {written : α → String} {close : Char} (hcomma : ',' ∈ stops)
    (hclose : close ∈ stops)
    (hne : ',' ≠ close) (hcuts : ∀ a ∈ as, CutsOff stops (fun a => (written a).toList) a)
    (hopen : ∀ a, ∃ c cs, (written a).toList = c :: cs ∧ c ≠ close)
    (h : (",".intercalate (as.map written)).toList ++ close :: rest
      = (",".intercalate (bs.map written)).toList ++ close :: rest') : as = bs ∧ rest = rest' := by
  have hempty (b : α) (bs : List α) {r r' : List Char} :
      close :: r ≠ (",".intercalate ((b :: bs).map written)).toList ++ close :: r' := by
    intro h
    obtain ⟨c, cs, htext, hc⟩ := hopen b
    rw [List.map_cons, toList_intercalate_cons, htext] at h
    exact hc (List.cons.inj h).1.symm
  cases as with
  | nil =>
    cases bs with
    | nil => exact ⟨rfl, (List.cons.inj h).2⟩
    | cons b bs => exact absurd h (hempty b bs)
  | cons a as =>
    cases bs with
    | nil => exact absurd h.symm (hempty a as)
    | cons b bs =>
      obtain ⟨hcut, hcuts⟩ := List.forall_mem_cons.1 hcuts
      have htail (as : List α) : (as.map written).flatMap (fun other => ",".toList ++ other.toList)
          = as.flatMap fun a => ',' :: (written a).toList := by
        rw [List.flatMap_map]
        rfl
      rw [List.map_cons, List.map_cons, toList_intercalate_cons, toList_intercalate_cons, List.append_assoc,
        List.append_assoc, htail, htail] at h
      obtain ⟨hfirst, hothers⟩ := hcut b _ _ (endsAt_flatMap hcomma hclose) (endsAt_flatMap hcomma hclose) h
      obtain ⟨hsame, hrest⟩ := flatMap_append_inj hcomma hclose hne hcuts hothers
      exact ⟨by rw [hfirst, hsame], hrest⟩

end Values

end Turnstile.Text
