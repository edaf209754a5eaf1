import Turnstile.User
import Turnstile.Proofs.Accounts.Draft
import Turnstile.Proofs.Text.Words

namespace Turnstile

open Text

/-!
# Names as they are shown

A name is shown in title case, word by word, and whatever blanks there were, there are single ones
between the words.

* `PersonName.words_joinWords`: joined words are told apart again.
* `PersonName.words_titleCaseChars`: the words of a name that is shown are those of the name, in title case.
  `PersonName.titleCase_titleCase` says of which names these stay as they are.
* `User.toList_intercalate_titleCase`: of several names that are shown together, all words are shown.
* `canonical_names` is the whole: stored forms, title case, and what is shown of a user.
-/

namespace PersonName

/-! ### Joined words -/

variable {w : List Char} {ws vs : List (List Char)}

theorem joinWords_cons (w : List Char) (hws : ws ≠ []) : joinWords (w :: ws) = w ++ ' ' :: joinWords ws := by
  obtain ⟨v, vs, rfl⟩ := List.exists_cons_of_ne_nil hws
  rfl

theorem joinWords_append (hws : ws ≠ []) (hvs : vs ≠ []) :
    joinWords (ws ++ vs) = joinWords ws ++ ' ' :: joinWords vs := by
  induction ws with
  | nil => exact absurd rfl hws
  | cons w ws ih =>
    by_cases hnil : ws = []
    · rw [hnil]
      exact joinWords_cons w hvs
    · rw [List.cons_append, joinWords_cons w (List.append_ne_nil_of_left_ne_nil hnil vs), ih hnil,
        joinWords_cons w hnil, List.append_assoc, List.cons_append]

/-- Read backwards, joined words are the words read backwards, in the other order. -/
theorem reverse_joinWords (ws : List (List Char)) :
    (joinWords ws).reverse = joinWords (ws.map List.reverse).reverse := by
  induction ws with
  | nil => rfl
  | cons w ws ih =>
    by_cases hnil : ws = []
    · rw [hnil]
      rfl
    · have hrest : (ws.map List.reverse).reverse ≠ [] := by simp [hnil]
      rw [joinWords_cons w hnil, List.map_cons, List.reverse_cons,
        joinWords_append hrest (List.cons_ne_nil _ _),
        ← ih, List.reverse_append, List.reverse_cons, List.append_assoc]
      rfl

/-- **Joined words are told apart again.** -/
theorem words_joinWords (h : ∀ w ∈ ws, IsWord w) : words (joinWords ws) = ws := by
  induction ws with
  | nil => exact words_nil
  | cons w ws ih =>
    obtain ⟨hw, hws⟩ := List.forall_mem_cons.1 h
    by_cases hnil : ws = []
    · rw [hnil]
      exact words_word hw
    · rw [joinWords_cons w hnil, words_append_blank (by decide), words_word hw, ih hws,
        List.singleton_append]

theorem joinWords_eq_nil_iff (h : ∀ w ∈ ws, IsWord w) : joinWords ws = [] ↔ ws = [] := by
  refine ⟨fun hnil => ?_, fun hnil => hnil ▸ rfl⟩
  rw [← words_joinWords h, hnil, words_nil]

theorem noBlankFirst_joinWords (h : ∀ w ∈ ws, IsWord w) : NoBlankFirst (joinWords ws) := by
  cases ws with
  | nil => exact fun _ h => nomatch h
  | cons w ws =>
    have hw := h w List.mem_cons_self
    obtain ⟨c, cs, rfl⟩ := List.exists_cons_of_ne_nil hw.ne_nil
    intro d hd
    have hhead : (joinWords ((c :: cs) :: ws)).head? = some c := by cases ws <;> rfl
    obtain rfl : c = d := Option.some.inj (hhead.symm.trans hd)
    exact hw.visible c List.mem_cons_self

/-- **There is no blank at either end** of joined words. -/
theorem trimmed_joinWords (h : ∀ w ∈ ws, IsWord w) : Trimmed (joinWords ws) := by
  refine ⟨noBlankFirst_joinWords h, ?_⟩
  rw [reverse_joinWords]
  refine noBlankFirst_joinWords fun w hw => ?_
  obtain ⟨v, hv, rfl⟩ := List.mem_map.1 (List.mem_reverse.1 hw)
  obtain ⟨hne, hvisible⟩ := h v hv
  exact ⟨List.reverse_ne_nil_iff.2 hne, fun c hc => hvisible c (List.mem_reverse.1 hc)⟩

/-! ### Title case -/

theorem isWord_titleWord (hw : IsWord w) : IsWord (titleWord w) := by
  obtain ⟨c, cs, rfl⟩ := List.exists_cons_of_ne_nil hw.ne_nil
  refine ⟨List.append_ne_nil_of_left_ne_nil (capital_settled.ne_nil c) _, fun d hd => ?_⟩
  rcases List.mem_append.1 hd with hd | hd
  · exact capital_settled.isBlank_eq_false (hw.visible c List.mem_cons_self) hd
  · obtain ⟨e, he, hd⟩ := List.mem_flatMap.1 hd
    exact small_settled.isBlank_eq_false (hw.visible e (List.mem_cons_of_mem _ he)) hd

theorem isWord_of_mem_titleWords {cs : List Char} : ∀ w ∈ (words cs).map titleWord, IsWord w := by
  intro w hw
  obtain ⟨v, hv, rfl⟩ := List.mem_map.1 hw
  exact isWord_titleWord (isWord_of_mem_words hv)

/-- **The words of a name that is shown** are the words of the name, in title case. -/
theorem words_titleCaseChars (cs : List Char) : words (titleCaseChars cs) = (words cs).map titleWord :=
  words_joinWords isWord_of_mem_titleWords

theorem titleCase_eq_empty_iff {name : String} : titleCase name = "" ↔ words name.toList = [] := by
  rw [titleCase, ← String.toList_inj, String.toList_ofList]
  exact (joinWords_eq_nil_iff isWord_of_mem_titleWords).trans List.map_eq_nil_iff

/-- A word that begins with a capital is put in title case once and for all. -/
theorem titleWord_titleWord (hcapital : ∀ c ∈ w, capital c = [c]) :
    titleWord (titleWord w) = titleWord w := by
  cases w with
  | nil => rfl
  | cons c cs =>
    have hc := hcapital c List.mem_cons_self
    have hsmall : (cs.flatMap small).flatMap small = cs.flatMap small := small_settled.flatMap_flatMap cs
    simp only [titleWord, hc, List.singleton_append, hsmall]

/-- **A name in capitals is put in title case once and for all.** -/
theorem titleCase_titleCase {name : String} (hcapital : ∀ c ∈ name.toList, capital c = [c]) :
    titleCase (titleCase name) = titleCase name := by
  have hwords : ((words name.toList).map titleWord).map titleWord = (words name.toList).map titleWord := by
    rw [List.map_map]
    refine List.map_congr_left fun w hw => titleWord_titleWord fun c hc => ?_
    exact hcapital c (mem_of_mem_words hw hc)
  simp only [titleCase, String.toList_ofList]
  rw [titleCaseChars, words_titleCaseChars, hwords, titleCaseChars]

/-- A stored name is in capitals. -/
theorem capital_of_mem_canonical {raw : String} : ∀ c ∈ (canonical raw).toList, capital c = [c] := by
  intro c hc
  rw [canonical, String.toList_ofList] at hc
  obtain ⟨d, -, hd⟩ := List.mem_flatMap.1 hc
  exact capital_settled.final hd

/-- What is shown of a text. -/
structure TitleCased (raw shown : String) : Prop where
  /-- It has as many words as the text, -/
  count : (words shown.toList).length = (words raw.toList).length
  /-- each in title case, -/
  words_eq : words shown.toList = (words raw.toList).map titleWord
  /-- with single blanks between them, -/
  joined : shown.toList = joinWords (words shown.toList)
  /-- and no blank at either end. -/
  trimmed : Trimmed shown.toList

theorem titleCased_titleCase (raw : String) : TitleCased raw (titleCase raw) := by
  have hwords := words_titleCaseChars raw.toList
  have hshown : (titleCase raw).toList = titleCaseChars raw.toList := String.toList_ofList
  constructor
  · rw [hshown, hwords, List.length_map]
  · rw [hshown, hwords]
  · rw [hshown, hwords, titleCaseChars]
  · rw [hshown]
    exact trimmed_joinWords isWord_of_mem_titleWords

/-! ### Stored names -/

/-- A stored name passes every rule for names as it is. -/
theorem Stored.name_eq_ok {name : String} (stored : Stored name) (missing invalid : Rejection) :
    Field.name missing invalid name = .ok name := by
  rw [Accounts.name_eq_ok_iff, stored.canonical]
  refine ⟨rfl, ?_, stored.length⟩
  rintro rfl
  exact absurd stored.length (by decide)

end PersonName

/-! ### Names of a user -/

namespace User

open PersonName

/-- The name is absent or blank. -/
def Lacks (name : Option String) : Prop := ∀ text, name = some text → ∀ c ∈ text.toList, isBlank c = true

/-- The words of a name, if there is one. -/
def wordsOf (name : Option String) : List (List Char) := name.elim [] fun text => words text.toList

theorem wordsOf_eq_nil_iff {name : Option String} : wordsOf name = [] ↔ Lacks name := by
  cases name with
  | none => exact iff_of_true rfl fun _ h => nomatch h
  | some text =>
    rw [Lacks, wordsOf, Option.elim_some, words_eq_nil_iff]
    exact ⟨fun h _ heq => Option.some.inj heq ▸ h, fun h => h text rfl⟩

theorem isWord_of_mem_wordsOf {name : Option String} {w : List Char} (hw : w ∈ wordsOf name) : IsWord w := by
  cases name with
  | none => cases hw
  | some text => exact isWord_of_mem_words hw

/-- What is shown of names is nothing exactly if there is no word in them. -/
theorem filter_titleCase_eq_nil_iff (names : List String) :
    (names.map titleCase).filter (· ≠ "") = [] ↔ names.flatMap (words ·.toList) = [] := by
  simp only [List.filter_eq_nil_iff, List.forall_mem_map, List.flatMap_eq_nil_iff, decide_eq_true_eq,
    not_not, titleCase_eq_empty_iff]

/-- **Of several names all words are shown**, with single blanks between them. -/
theorem toList_intercalate_titleCase (names : List String) :
    (" ".intercalate ((names.map titleCase).filter (· ≠ ""))).toList
      = joinWords ((names.flatMap (words ·.toList)).map titleWord) := by
  induction names with
  | nil => rfl
  | cons name names ih =>
    rw [List.map_cons, List.flatMap_cons]
    by_cases hname : words name.toList = []
    · -- a name without a word is left out
      rw [List.filter_cons_of_neg (by simp [titleCase_eq_empty_iff.2 hname]), ih, hname, List.nil_append]
    · have hshown : titleCase name ≠ "" := mt titleCase_eq_empty_iff.1 hname
      have htitle : (titleCase name).toList = joinWords ((words name.toList).map titleWord) :=
        String.toList_ofList
      rw [List.filter_cons_of_pos (by simp [hshown]), List.map_append]
      by_cases hrest : names.flatMap (words ·.toList) = []
      · rw [(filter_titleCase_eq_nil_iff names).2 hrest, String.intercalate_singleton, hrest, htitle,
          List.map_nil, List.append_nil]
      · rw [String.intercalate_cons_of_ne_nil (mt (filter_titleCase_eq_nil_iff names).1 hrest),
          String.toList_append,
          String.toList_append, ih, htitle, joinWords_append (mt List.map_eq_nil_iff.1 hname)
            (mt List.map_eq_nil_iff.1 hrest), List.append_assoc]
        rfl

/-- What is shown of a user. -/
structure Displays (u : User) (shown : Option String) : Prop where
  /-- Nothing is shown exactly if both names are absent or blank. -/
  none_iff : shown = none ↔ Lacks u.givenNames ∧ Lacks u.surname
  /-- Otherwise these are the words of the given names and then those of the surname, in title case and with
      single blanks between them. -/
  some_eq : ∀ text, shown = some text →
    text.toList = joinWords ((wordsOf u.givenNames ++ wordsOf u.surname).map titleWord)

theorem displays_displayName (u : User) : Displays u u.displayName := by
  have hwords : (u.givenNames.toList ++ u.surname.toList).flatMap (words ·.toList)
      = wordsOf u.givenNames ++ wordsOf u.surname := by
    rw [List.flatMap_append]
    cases u.givenNames <;> cases u.surname <;> simp [wordsOf]
  have hnil := filter_titleCase_eq_nil_iff (u.givenNames.toList ++ u.surname.toList)
  have hshown := toList_intercalate_titleCase (u.givenNames.toList ++ u.surname.toList)
  rw [hwords] at hnil hshown
  rw [displayName]
  have hlacks : wordsOf u.givenNames ++ wordsOf u.surname = [] ↔ Lacks u.givenNames ∧ Lacks u.surname := by
    rw [List.append_eq_nil_iff, wordsOf_eq_nil_iff, wordsOf_eq_nil_iff]
  split
  · next hempty => exact ⟨iff_of_true rfl (hlacks.1 (hnil.1 hempty)), fun _ h => nomatch h⟩
  · next hne =>
    refine ⟨iff_of_false (Option.some_ne_none _) fun h => hne (hnil.2 (hlacks.2 h)), ?_⟩
    rintro _ ⟨⟩
    exact hshown

/-- Where there is a word in the names, they are shown. -/
theorem displayName_eq_some {u : User} (h : wordsOf u.givenNames ++ wordsOf u.surname ≠ []) :
    u.displayName
      = some (String.ofList (joinWords ((wordsOf u.givenNames ++ wordsOf u.surname).map titleWord))) := by
  have displays := displays_displayName u
  have hshown : u.displayName ≠ none := by
    rw [Ne, displays.none_iff, ← wordsOf_eq_nil_iff, ← wordsOf_eq_nil_iff, ← List.append_eq_nil_iff]
    exact h
  obtain ⟨text, htext⟩ := Option.ne_none_iff_exists'.1 hshown
  rw [htext, ← displays.some_eq text htext, String.ofList_toList]

end User

/-! ### The whole -/

open PersonName (canonical titleCase TitleCased)

/-- Names are stored in a form of their own, and shown cleanly. -/
structure CanonicalNames : Prop where
  /-- The stored form is final, -/
  final : ∀ raw, canonical (canonical raw) = canonical raw
  /-- and what was accepted for either name is accepted for both as it is. -/
  accepted : ∀ raw name, Field.givenNames raw = .ok name ∨ Field.surname raw = .ok name →
    Field.givenNames name = .ok name ∧ Field.surname name = .ok name
  /-- What is shown of any text are its words in title case; -/
  titleCased : ∀ raw, TitleCased raw (titleCase raw)
  /-- what is shown of a stored name is shown as it is. -/
  settled : ∀ raw, titleCase (titleCase (canonical raw)) = titleCase (canonical raw)
  /-- Of a user, both names are shown. -/
  displayed : ∀ u : User, u.Displays u.displayName

/-- **Stored names are canonical and shown cleanly.** -/
theorem canonical_names : CanonicalNames where
  final := PersonName.canonical_canonical
  accepted := by
    intro raw name accepted
    have stored : PersonName.Stored name := accepted.elim Accounts.name_stored Accounts.name_stored
    exact ⟨stored.name_eq_ok _ _, stored.name_eq_ok _ _⟩
  titleCased := PersonName.titleCased_titleCase
  settled := fun raw => PersonName.titleCase_titleCase PersonName.capital_of_mem_canonical
  displayed := User.displays_displayName

/-- A user with two given names and a surname. -/
def janeDoe : User := { User.new with givenNames := some "JANE  MARY", surname := some "DOE" }

/-- What she typed is accepted, what is stored of it is accepted as a surname, too, and both names are
    shown. -/
theorem canonical_names_jane : Field.givenNames " Jane  Mary " = .ok "JANE  MARY" ∧
    Field.surname "JANE  MARY" = .ok "JANE  MARY" ∧ janeDoe.displayName = some "Jane Mary Doe" := by
  have accepted : Field.givenNames " Jane  Mary " = .ok "JANE  MARY" :=
    Accounts.name_eq_ok_iff.2 ⟨by decide +kernel, by decide +kernel, by decide +kernel⟩
  refine ⟨accepted, (canonical_names.accepted _ _ (.inl accepted)).2, ?_⟩
  have displays := canonical_names.displayed janeDoe
  have hshown : janeDoe.displayName ≠ none := fun hnone =>
    absurd ((displays.none_iff.1 hnone).2 "DOE" rfl 'D' (by decide)) (by decide)
  obtain ⟨text, htext⟩ := Option.ne_none_iff_exists'.1 hshown
  have hwords : PersonName.joinWords ((User.wordsOf janeDoe.givenNames ++ User.wordsOf janeDoe.surname).map
      PersonName.titleWord) = "Jane Mary Doe".toList := by decide +kernel
  rw [htext, Option.some.injEq, ← String.toList_inj, displays.some_eq text htext, hwords]

end Turnstile
