import Mathlib.Data.Bool.AllAny
import Turnstile.Proofs.Accounts.Enrolment
import Turnstile.Proofs.Names.Display

namespace Turnstile

open Text

/-!
# What storing does to a name that is shown

A name is stored in capitals, and when it is shown small letters are made of these. So a name is shown as
if it had never been stored exactly if its letters come back from their capitals, which is not so of all
of them: a dotless i comes back with a dot, a sharp s as two letters, and a final sigma as any other.

* `PersonName.Returns` and `PersonName.Stays` say so of letters inside a word and of first letters, and
  `PersonName.Survives` of words.
* `PersonName.toldApart_small_capital`: what comes back of a letter is its small form or begins in
  another way, so that letters of a word cannot make up for one another.
* `PersonName.titleCase_canonical_eq_iff` puts letters together to texts, and `survival` adds what this
  means for the Turkish alphabet and for users who sign up. `not_shownUnchanged` is about a name that
  does not survive.
-/

namespace PersonName

/-! ### Letters and words -/

/-- The small letters of the capital of a letter are those of the letter. -/
def Returns (c : Char) : Prop := (capital c).flatMap small = small c

/-- In title case a first letter may become several, as a ligature does. None behind the first of these is a
    capital. -/
def Stays (c : Char) : Prop := ∀ d ∈ (capital c).tail, small d = [d]

/-- The word is not changed in title case by having been put in capitals. -/
def Survives : List Char → Prop
  | [] => True
  | c :: cs => Stays c ∧ ∀ d ∈ cs, Returns d

instance (c : Char) : Decidable (Returns c) := inferInstanceAs (Decidable (_ = _))

instance (c : Char) : Decidable (Stays c) := List.decidableBAll _ _

instance : (w : List Char) → Decidable (Survives w)
  | [] => .isTrue trivial
  | c :: cs =>
    have : Decidable (∀ d ∈ cs, Returns d) := List.decidableBAll _ _
    inferInstanceAs (Decidable (Stays c ∧ ∀ d ∈ cs, Returns d))

/-! ### Texts made of pieces -/

/-- Two pieces of text that are the same if they begin in the same way. -/
structure ToldApart (p q : List Char) : Prop where
  left : p ≠ []
  right : q ≠ []
  same : p.head? = q.head? → p = q

theorem ToldApart.append_eq_iff {p q : List Char} (h : ToldApart p q) {ps qs : List Char} :
    p ++ ps = q ++ qs ↔ p = q ∧ ps = qs := by
  constructor
  · intro heq
    have hhead := congrArg List.head? heq
    rw [List.head?_append_of_ne_nil _ h.left, List.head?_append_of_ne_nil _ h.right] at hhead
    obtain rfl := h.same hhead
    exact ⟨rfl, List.append_cancel_left heq⟩
  · rintro ⟨rfl, rfl⟩
    rfl

/-- **Texts made of such pieces** are the same only piece by piece. -/
theorem flatMap_append_eq_iff {f g : Char → List Char} {cs : List Char}
    (h : ∀ c ∈ cs, ToldApart (f c) (g c)) (ps qs : List Char) :
    cs.flatMap f ++ ps = cs.flatMap g ++ qs ↔ (∀ c ∈ cs, f c = g c) ∧ ps = qs := by
  induction cs with
  | nil => simp
  | cons c cs ih =>
    obtain ⟨hc, hcs⟩ := List.forall_mem_cons.1 h
    rw [List.flatMap_cons, List.flatMap_cons, List.append_assoc, List.append_assoc, hc.append_eq_iff, ih hcs,
      List.forall_mem_cons, and_assoc]

/-! ### The case tables -/

variable {c d : Char}

/-- Every letter but one has a small form of one letter. -/
theorem exists_small_eq (hc : c ≠ 'İ') : ∃ d, small c = [d] := by
  rw [small, mapCase]
  cases smallRuns.find? (·.holds c.toNat) with
  | some r => exact ⟨_, rfl⟩
  | none =>
    have hseq : smallSequences.find? (·.1 == c.toNat) = none := by
      rw [smallSequences, List.find?_cons_of_neg, List.find?_nil]
      rw [beq_iff_eq]
      exact fun heq => hc (Char.toNat_inj.1 heq.symm)
    rw [hseq]
    exact ⟨_, rfl⟩

/-- This one is the capital of itself only. -/
theorem eq_of_mem_capital (h : 'İ' ∈ capital c) : c = 'İ' := by
  have hnot : 'İ' ∉ images capitalRuns capitalSequences := by decide +kernel
  rcases (mapCase_cases c).2 'İ' h with himage | hsame
  · exact absurd himage hnot
  · have hmem : 'İ' ∈ mapCase capitalRuns capitalSequences c := h
    rw [hsame, List.mem_singleton] at hmem
    exact hmem.symm

/-- What comes back of a letter whose capital is a sequence begins in another way. -/
theorem head?_small_sequence : ∀ s ∈ capitalSequences,
    ((s.2.map Char.ofNat).flatMap small).head? ≠ (small (Char.ofNat s.1)).head? := by
  decide +kernel

/-- **A letter comes back, or what comes back begins in another way.** -/
theorem toldApart_small_capital (c : Char) : ToldApart ((capital c).flatMap small) (small c) := by
  obtain ⟨a, as, hcapital⟩ := List.exists_cons_of_ne_nil (capital_settled.ne_nil c)
  refine ⟨fun hnil => ?_, small_settled.ne_nil c, fun hhead => ?_⟩
  · have hcapital : capital c = a :: as := hcapital
    rw [hcapital, List.flatMap_cons, List.append_eq_nil_iff] at hnil
    exact small_settled.ne_nil a hnil.1
  by_cases hdotted : c = 'İ'
  · rw [hdotted]
    decide +kernel
  -- a capital that is one letter has a small form of one letter
  have hone (a : Char) (ha : capital c = [a]) : (capital c).flatMap small = small c := by
    have hne : a ≠ 'İ' := fun heq => hdotted (eq_of_mem_capital (by rw [ha, heq]; exact List.mem_cons_self))
    obtain ⟨x, hx⟩ := exists_small_eq hne
    obtain ⟨y, hy⟩ := exists_small_eq hdotted
    rw [ha, List.flatMap_singleton, hx, hy] at hhead ⊢
    obtain rfl : x = y := Option.some.inj hhead
    rfl
  cases hrun : capitalRuns.find? (·.holds c.toNat) with
  | some r => exact hone _ (by rw [capital, mapCase, hrun])
  | none =>
    cases hseq : capitalSequences.find? (·.1 == c.toNat) with
    | none => exact hone c (by rw [capital, mapCase, hrun, hseq])
    | some s =>
      have hfound := List.find?_some hseq
      have hs : s.1 = c.toNat := beq_iff_eq.1 hfound
      have hsequence : capital c = s.2.map Char.ofNat := by rw [capital, mapCase, hrun, hseq]
      have hdiffers := head?_small_sequence s (List.mem_of_find?_eq_some hseq)
      rw [← hsequence, hs, Char.ofNat_toNat] at hdiffers
      exact absurd hhead hdiffers

/-- So it is of the letters behind the first one of a capital, where they stand in title case. -/
theorem toldApart_small_tail (hd : d ∈ (capital c).tail) : ToldApart (small d) [d] := by
  have hdotted : d ≠ 'İ' := by
    rintro rfl
    obtain rfl := eq_of_mem_capital (List.mem_of_mem_tail hd)
    revert hd
    decide +kernel
  obtain ⟨x, hx⟩ := exists_small_eq hdotted
  rw [hx]
  refine ⟨List.cons_ne_nil _ _, List.cons_ne_nil _ _, fun hhead => ?_⟩
  rw [Option.some.inj hhead]

/-! ### Words and texts -/

/-- **A word is the same in title case, stored or not, exactly if it survives.** -/
theorem titleWord_upperChars_eq_iff {w : List Char} :
    titleWord (upperChars w) = titleWord w ↔ Survives w := by
  cases w with
  | nil => exact iff_of_true rfl trivial
  | cons c cs =>
    obtain ⟨a, as, hcapital⟩ : ∃ a as, capital c = a :: as :=
      List.exists_cons_of_ne_nil (capital_settled.ne_nil c)
    have hfirst : capital a = [a] := capital_settled.final (hcapital ▸ List.mem_cons_self)
    have hstored : titleWord (upperChars (c :: cs))
        = a :: (as.flatMap small ++ (cs.flatMap fun d => (capital d).flatMap small)) := by
      rw [upperChars, List.flatMap_cons, hcapital, List.cons_append, titleWord, hfirst, List.flatMap_append,
        List.flatMap_assoc]
      rfl
    have htyped : titleWord (c :: cs) = a :: (as.flatMap (fun d => [d]) ++ cs.flatMap small) := by
      rw [titleWord, hcapital, List.flatMap_singleton']
      rfl
    have hbehind : ∀ d ∈ as, ToldApart (small d) [d] := by
      intro d hd
      refine toldApart_small_tail (c := c) ?_
      rwa [hcapital]
    have hinner := flatMap_append_eq_iff (fun d (_ : d ∈ cs) => toldApart_small_capital d) [] []
    rw [List.append_nil, List.append_nil, and_iff_left rfl] at hinner
    rw [hstored, htyped, List.cons.injEq, and_iff_right rfl, flatMap_append_eq_iff hbehind, hinner, Survives,
      Stays, hcapital]
    rfl

theorem joinWords_eq_iff {ws vs : List (List Char)} (hws : ∀ w ∈ ws, IsWord w) (hvs : ∀ v ∈ vs, IsWord v) :
    joinWords ws = joinWords vs ↔ ws = vs := by
  refine ⟨fun h => ?_, congrArg joinWords⟩
  rw [← words_joinWords hws, h, words_joinWords hvs]

/-- The words of a name that is stored are those of the name in capitals. -/
theorem words_canonical (raw : String) :
    words (canonical raw).toList = (words raw.toList).map upperChars := by
  rw [canonical, String.toList_ofList, canonicalChars, words_upperChars, words_trimChars]

/-- Words are shown in the same way, stored or not, exactly if they survive. -/
theorem joinWords_upperChars_eq_iff {ws : List (List Char)} (h : ∀ w ∈ ws, IsWord w) :
    joinWords ((ws.map upperChars).map titleWord) = joinWords (ws.map titleWord) ↔ ∀ w ∈ ws, Survives w := by
  have hwords : ∀ w ∈ ws.map titleWord, IsWord w :=
    List.forall_mem_map.2 fun w hw => isWord_titleWord (h w hw)
  have hstored : ∀ w ∈ (ws.map upperChars).map titleWord, IsWord w :=
    List.forall_mem_map.2 <| List.forall_mem_map.2 fun w hw =>
      isWord_titleWord ((h w hw).flatMap capital_settled.mapsTo)
  rw [joinWords_eq_iff hstored hwords, List.map_map, List.map_inj_left]
  exact forall₂_congr fun w _ => titleWord_upperChars_eq_iff

/-- **A text is shown in the same way, stored or not, exactly if all its words survive.** -/
theorem titleCase_canonical_eq_iff (raw : String) :
    titleCase (canonical raw) = titleCase raw ↔ ∀ w ∈ words raw.toList, Survives w := by
  rw [titleCase, titleCase, String.ofList_inj, titleCaseChars, titleCaseChars, words_canonical]
  exact joinWords_upperChars_eq_iff fun _ hw => isWord_of_mem_words hw

/-! ### The Turkish alphabet -/

/-- The letters of the Turkish alphabet. -/
def turkishLetters : List Char :=
  "abcçdefgğhıijklmnoöprsştuüvyz".toList ++ "ABCÇDEFGĞHIİJKLMNOÖPRSŞTUÜVYZ".toList

/-- All of them come back but the dotless i. -/
theorem returns_turkish : ∀ c ∈ turkishLetters, Stays c ∧ (Returns c ↔ c ≠ 'ı') :=
  List.all_iff_forall_prop.1 (by decide +kernel)

theorem survives_turkish_iff {w : List Char} (hw : ∀ c ∈ w, c ∈ turkishLetters) :
    Survives w ↔ 'ı' ∉ w.tail := by
  cases w with
  | nil => exact iff_of_true trivial List.not_mem_nil
  | cons c cs =>
    obtain ⟨hc, hcs⟩ := List.forall_mem_cons.1 hw
    rw [Survives, and_iff_right (returns_turkish c hc).1, List.tail_cons]
    constructor
    · exact fun returns hmem => (returns_turkish 'ı' (hcs _ hmem)).2.1 (returns _ hmem) rfl
    · exact fun hnot d hd => (returns_turkish d (hcs d hd)).2.2 (ne_of_mem_of_not_mem hd hnot)

end PersonName

/-! ### Users who sign up -/

open PersonName

/-- The words of the names on a draft. -/
def UserDraft.nameWords (d : UserDraft) : List (List Char) :=
  User.wordsOf d.givenNames ++ User.wordsOf d.surname

/-- The words of the names of whoever has signed up are those of the draft, in capitals. -/
theorem Accounts.wordsOf_newcomer {S : Store} (d : UserDraft) (hash : Option String) {u : User}
    (hu : u = S.newUser (newcomer (storedForms d) hash)) :
    User.wordsOf u.givenNames ++ User.wordsOf u.surname = d.nameWords.map upperChars := by
  have hwords (name : Option String) :
      User.wordsOf (name.map canonical) = (User.wordsOf name).map upperChars := by
    cases name with
    | none => rfl
    | some raw => exact words_canonical raw
  have hgiven : u.givenNames = d.givenNames.map canonical := by rw [hu]; rfl
  have hsurname : u.surname = d.surname.map canonical := by rw [hu]; rfl
  rw [hgiven, hsurname, hwords, hwords, UserDraft.nameWords, List.map_append]

/-- When a name is shown as it was typed. -/
structure Survival : Prop where
  /-- A text is the same in title case, stored or not, exactly if its words survive. -/
  shown : ∀ raw, titleCase (canonical raw) = titleCase raw ↔ ∀ w ∈ words raw.toList, Survives w
  /-- So it is with what is stored of a name that was accepted. -/
  accepted : ∀ raw name, Field.givenNames raw = .ok name ∨ Field.surname raw = .ok name →
    (titleCase name = titleCase raw ↔ ∀ w ∈ words raw.toList, Survives w)
  /-- In the Turkish alphabet, these are the words without a dotless i behind their first letters. -/
  turkish : ∀ raw : String, (∀ c ∈ raw.toList, isBlank c = true ∨ c ∈ turkishLetters) →
    (titleCase (canonical raw) = titleCase raw ↔ ∀ w ∈ words raw.toList, 'ı' ∉ w.tail)
  /-- Who signs up with names in title case sees exactly these names, but for blanks, exactly if their words
      survive. -/
  signedUp : ∀ {h r o} {S S' : Store} {d : UserDraft} {u : User},
    (Accounts.create h r (some d)).runOn o S = (.ok u, S') → d.nameWords ≠ [] →
    (∀ w ∈ d.nameWords, titleWord w = w) →
    (u.displayName = some (String.ofList (joinWords d.nameWords)) ↔ ∀ w ∈ d.nameWords, Survives w)

/-- **A name is shown as it was typed exactly if it survives being stored.** -/
theorem survival : Survival where
  shown := titleCase_canonical_eq_iff
  accepted := by
    intro raw name accepted
    have hname : name = canonical raw :=
      accepted.elim (fun h => (Accounts.name_eq_ok_iff.1 h).1) fun h => (Accounts.name_eq_ok_iff.1 h).1
    rw [hname]
    exact titleCase_canonical_eq_iff raw
  turkish := by
    intro raw letters
    rw [titleCase_canonical_eq_iff]
    refine forall₂_congr fun w hw => survives_turkish_iff fun c hc => ?_
    refine (letters c (mem_of_mem_words hw hc)).resolve_left ?_
    rw [words_noBlank _ w hw c hc]
    exact Bool.false_ne_true
  signedUp := by
    intro h r o S S' d u done some_word titled
    obtain ⟨hash, -, -, hu, -⟩ := Accounts.exists_newcomer_of_create done
    have hwords := Accounts.wordsOf_newcomer d hash hu
    have hshown : u.displayName
        = some (String.ofList (joinWords ((d.nameWords.map upperChars).map titleWord))) := by
      rw [← hwords]
      refine User.displayName_eq_some ?_
      rwa [hwords, Ne, List.map_eq_nil_iff]
    have htitled : d.nameWords.map titleWord = d.nameWords :=
      (List.map_congr_left titled).trans (List.map_id' _)
    have hsurvive := joinWords_upperChars_eq_iff fun w (hw : w ∈ d.nameWords) =>
      (List.mem_append.1 hw).elim User.isWord_of_mem_wordsOf User.isWord_of_mem_wordsOf
    rw [htitled] at hsurvive
    rw [hshown, Option.some.injEq, String.ofList_inj, hsurvive]

/-- A draft with a given name. -/
def ozgurDraft : UserDraft :=
  { email := none, password := none, givenNames := some "Özgür", surname := none }

/-- Who signs up with it is shown by this name. A name with a dotless i inside is not shown as it was
    typed. -/
theorem survival_turkish :
    (∃ u S, (Accounts.create plainHasher (.new "r" .epoch) (some ozgurDraft)).runOn (.calm .epoch) .empty
        = (.ok u, S) ∧ u.displayName = some "Özgür") ∧
      titleCase (canonical "Işık") ≠ titleCase "Işık" := by
  constructor
  · have accepted : Field.givenNames "Özgür" = .ok "ÖZGÜR" :=
      Accounts.name_eq_ok_iff.2 ⟨by decide +kernel, by decide +kernel, by decide +kernel⟩
    have hchecked : Accounts.check ozgurDraft = .ok ⟨none, none, some "ÖZGÜR", none⟩ := by
      show (do let givenNames ← (Field.givenNames "Özgür").map some; _) = _
      rw [accepted]
      rfl
    obtain ⟨u, S, done⟩ : ∃ u S, (Accounts.create plainHasher (.new "r" .epoch) (some ozgurDraft)).runOn
        (.calm .epoch) .empty = (.ok u, S) := by
      rw [Accounts.create_of_check hchecked]
      exact ⟨_, _, rfl⟩
    refine ⟨u, S, done, ?_⟩
    have hword : String.ofList (joinWords ozgurDraft.nameWords) = "Özgür" := by decide +kernel
    have survives := (survival.signedUp done (by decide +kernel) (by decide +kernel)).2 (by decide +kernel)
    rwa [hword] at survives
  · intro hsame
    have letters : ∀ c ∈ "Işık".toList, c ∈ turkishLetters := List.all_iff_forall_prop.1 (by decide)
    have hnone := (survival.turkish "Işık" fun c hc => .inr (letters c hc)).1 hsame
    revert hnone
    decide +kernel

/-- A name that was accepted is shown in the same way, stored or not. -/
def ShownUnchanged : Prop :=
  ∀ raw name, Field.givenNames raw = .ok name ∨ Field.surname raw = .ok name → titleCase name = titleCase raw

/-- **Not every name is**: the dotless i of `Işık` is shown with a dot. -/
theorem not_shownUnchanged : ¬ ShownUnchanged := by
  intro claim
  have accepted : Field.givenNames "Işık" = .ok "IŞIK" :=
    Accounts.name_eq_ok_iff.2 ⟨by decide +kernel, by decide +kernel, by decide +kernel⟩
  have hsame := claim "Işık" "IŞIK" (.inl accepted)
  have hdiffers : titleCase "IŞIK" ≠ titleCase "Işık" := by decide +kernel
  exact hdiffers hsame

end Turnstile
