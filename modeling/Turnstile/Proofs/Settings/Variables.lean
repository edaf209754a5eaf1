import Turnstile.Proofs.Except
import Turnstile.Proofs.Text.Reading
import Turnstile.Proofs.Text.Recase
import Turnstile.Settings

namespace Turnstile.Settings

open Text

/-!
# Single variables

What is read from one variable.

* `Unset` holds of variables that have no value or a blank one.
* `SpellsNumber` and `SpellsWord` say what texts mean, whatever blanks there are around them.
* `setting` reads a variable with a default by any rule. Numbers, truth values and the environment are
  read by it (`number_eq`, `flag_eq`, `environmentOf_eq`), and `setting_eq_ok_iff` and
  `setting_eq_error_iff` say what comes of it.
* `SameInside` holds of texts that differ in the blanks around them. They mean the same (`spellsNumber_iff`,
  `spellsWord_iff`).
-/

/-! ### Blanks -/

/-- There is nothing in the text but blanks. -/
def Blank (raw : String) : Prop := ∀ c ∈ raw.toList, isBlank c = true

/-- The variable has no value, or a blank one. -/
def Unset (vars : Lookup) (key : String) : Prop := ∀ raw, vars key = some raw → Blank raw

/-- The texts differ in the blanks around them at most. -/
def SameInside (raw raw' : String) : Prop :=
  ∃ core front back front' back', Blank front ∧ Blank back ∧ Blank front' ∧ Blank back' ∧
    raw = front ++ core ++ back ∧ raw' = front' ++ core ++ back'

variable {vars : Lookup} {key raw raw' : String}

theorem SameInside.trim_eq (h : SameInside raw raw') : trim raw = trim raw' := by
  obtain ⟨core, front, back, front', back', hfront, hback, hfront', hback', rfl, rfl⟩ := h
  rw [trim_surrounded hfront hback, trim_surrounded hfront' hback']

theorem SameInside.blank_iff (h : SameInside raw raw') : Blank raw ↔ Blank raw' := by
  rw [Blank, Blank, ← trim_eq_empty_iff, ← trim_eq_empty_iff, h.trim_eq]

theorem value?_eq_some_iff {value : String} :
    value? vars key = some value ↔ vars key = some value ∧ ¬ Blank value := by
  rw [value?, Option.filter_eq_some_iff, Blank, ← trim_eq_empty_iff]
  simp

theorem value?_eq_none_iff : value? vars key = none ↔ Unset vars key := by
  rw [Option.eq_none_iff_forall_ne_some]
  constructor
  · intro h raw hraw
    by_contra hblank
    exact h raw (value?_eq_some_iff.2 ⟨hraw, hblank⟩)
  · intro h raw hraw
    obtain ⟨hset, hsome⟩ := value?_eq_some_iff.1 hraw
    exact hsome (h raw hset)

/-! ### What texts mean -/

/-- But for blanks around it, the text is a numeral, and the number is within the limit. -/
def SpellsNumber (limit : Nat) (raw : String) (n : Nat) : Prop := Numeral (trim raw).toList n ∧ n ≤ limit

/-- But for blanks around it and the case of its letters, the text is one of the words. -/
def SpellsWord {α : Type} (words : List (String × α)) (raw : String) (a : α) : Prop :=
  ∃ word, (word, a) ∈ words ∧ SameLetters (trim raw) word

/-- The words for truth values. -/
def flagWords : List (String × Bool) :=
  [("1", true), ("true", true), ("yes", true), ("0", false), ("false", false), ("no", false)]

/-- The words for environments. -/
def environmentWords : List (String × Environment) :=
  [("DEV", .development), ("DEVELOPMENT", .development), ("STAGING", .staging), ("TEST", .staging),
    ("PROD", .production), ("PRODUCTION", .production)]

theorem spellsNumber_iff (h : SameInside raw raw') {limit n : Nat} :
    SpellsNumber limit raw n ↔ SpellsNumber limit raw' n := by
  rw [SpellsNumber, SpellsNumber, h.trim_eq]

theorem spellsWord_iff {α : Type} (h : SameInside raw raw') {words : List (String × α)} {a : α} :
    SpellsWord words raw a ↔ SpellsWord words raw' a := by
  simp only [SpellsWord, h.trim_eq]

/-- A blank text is no numeral, -/
theorem SpellsNumber.not_blank {limit n : Nat} (h : SpellsNumber limit raw n) : ¬ Blank raw := by
  intro hblank
  obtain ⟨⟨digits, hsome, -, hraw, -⟩, -⟩ := h
  rw [trim_eq_empty_iff.2 hblank] at hraw
  rcases hraw with hraw | hraw
  · exact hsome hraw.symm
  · cases hraw

/-- and no word. -/
theorem SpellsWord.not_blank {α : Type} {words : List (String × α)} {a : α} (hwords : ∀ w ∈ words, w.1 ≠ "")
    (h : SpellsWord words raw a) : ¬ Blank raw := by
  intro hblank
  obtain ⟨word, hmem, hsame⟩ := h
  rw [trim_eq_empty_iff.2 hblank, SameLetters] at hsame
  have hempty : word = "" := by
    rw [← String.toList_inj]
    exact List.map_eq_nil_iff.1 hsame.symm
  exact hwords _ hmem hempty

theorem flagOfWord?_eq_some_iff {word : String} {b : Bool} :
    flagOfWord? word = some b ↔ (word, b) ∈ flagWords := by
  constructor
  · intro h
    rw [flagOfWord?.eq_def] at h
    split at h <;> cases h <;> decide
  · intro h
    simp only [flagWords, List.mem_cons, Prod.mk.injEq, List.not_mem_nil, or_false] at h
    rcases h with ⟨rfl, rfl⟩ | ⟨rfl, rfl⟩ | ⟨rfl, rfl⟩ | ⟨rfl, rfl⟩ | ⟨rfl, rfl⟩ | ⟨rfl, rfl⟩ <;> rfl

theorem ofWord?_eq_some_iff {word : String} {e : Environment} :
    Environment.ofWord? word = some e ↔ (word, e) ∈ environmentWords := by
  constructor
  · intro h
    rw [Environment.ofWord?.eq_def] at h
    split at h <;> cases h <;> decide
  · intro h
    simp only [environmentWords, List.mem_cons, Prod.mk.injEq, List.not_mem_nil, or_false] at h
    rcases h with ⟨rfl, rfl⟩ | ⟨rfl, rfl⟩ | ⟨rfl, rfl⟩ | ⟨rfl, rfl⟩ | ⟨rfl, rfl⟩ | ⟨rfl, rfl⟩ <;> rfl

/-- **Words in small letters** are looked up by the small form of a text. -/
theorem spellsWord_iff_toLower {α : Type} {words : List (String × α)} {a : α}
    (hwords : ∀ w ∈ words, w.1.toLower = w.1) :
    SpellsWord words raw a ↔ ((trim raw).toLower, a) ∈ words := by
  constructor
  · rintro ⟨word, hmem, hsame⟩
    rwa [toLower_eq_toLower_iff.2 hsame, hwords _ hmem]
  · intro hmem
    exact ⟨_, hmem, toLower_eq_toLower_iff.1 (hwords _ hmem).symm⟩

/-- **Words in capitals** are looked up by its capital form. -/
theorem spellsWord_iff_toUpper {α : Type} {words : List (String × α)} {a : α}
    (hwords : ∀ w ∈ words, w.1.toUpper = w.1) :
    SpellsWord words raw a ↔ ((trim raw).toUpper, a) ∈ words := by
  constructor
  · rintro ⟨word, hmem, hsame⟩
    rwa [toUpper_eq_toUpper_iff_sameLetters.2 hsame, hwords _ hmem]
  · intro hmem
    exact ⟨_, hmem, toUpper_eq_toUpper_iff_sameLetters.1 (hwords _ hmem).symm⟩

theorem flagOfWord?_toLower {b : Bool} :
    flagOfWord? (trim raw).toLower = some b ↔ SpellsWord flagWords raw b := by
  rw [flagOfWord?_eq_some_iff, spellsWord_iff_toLower (by decide +kernel)]

theorem parse?_eq_some_iff {e : Environment} :
    Environment.parse? raw = some e ↔ SpellsWord environmentWords raw e := by
  rw [Environment.parse?, ofWord?_eq_some_iff, spellsWord_iff_toUpper (by decide +kernel)]

/-! ### Variables with a default -/

section Settings

variable {α : Type} {default a : α} {rule : String → Except String α} {f : SettingsFault}

/-- Read a variable by a rule that says why it does not accept a text. -/
def setting (vars : Lookup) (key : String) (default : α) (rule : String → Except String α) :
    Except SettingsFault α :=
  match value? vars key with
  | none => .ok default
  | some raw => (rule raw).mapError (.invalid key raw)

/-- The variable is unset and this is its default, or this is what it spells. -/
def Reads (vars : Lookup) (key : String) (default : α) (spells : String → α → Prop) (a : α) : Prop :=
  (Unset vars key ∧ a = default) ∨ ∃ raw, vars key = some raw ∧ spells raw a

/-- The variable has a value that is not blank, and the rule does not accept it. -/
def Refused (vars : Lookup) (key : String) (rule : String → Except String α) (f : SettingsFault) : Prop :=
  ∃ raw reason, vars key = some raw ∧ ¬ Blank raw ∧ rule raw = .error reason ∧ f = .invalid key raw reason

/-- The rule accepts exactly the texts that spell something, none of which is blank. -/
structure Follows (rule : String → Except String α) (spells : String → α → Prop) : Prop where
  ok_iff : ∀ raw a, rule raw = .ok a ↔ spells raw a
  not_blank : ∀ raw a, spells raw a → ¬ Blank raw

theorem setting_eq_ok_iff {spells : String → α → Prop} (follows : Follows rule spells) :
    setting vars key default rule = .ok a ↔ Reads vars key default spells a := by
  rw [setting, Reads]
  cases hvalue : value? vars key with
  | none =>
    have hunset := value?_eq_none_iff.1 hvalue
    constructor
    · intro h
      cases h
      exact .inl ⟨hunset, rfl⟩
    · rintro (⟨-, rfl⟩ | ⟨raw, hset, hspells⟩)
      · rfl
      · exact absurd (hunset raw hset) (follows.not_blank raw a hspells)
  | some raw =>
    obtain ⟨hset, hsome⟩ := value?_eq_some_iff.1 hvalue
    dsimp only
    rw [Except.mapError_eq_ok_iff, follows.ok_iff]
    constructor
    · exact fun hspells => .inr ⟨raw, hset, hspells⟩
    · rintro (⟨hunset, -⟩ | ⟨raw', hset', hspells⟩)
      · exact absurd (hunset raw hset) hsome
      · obtain rfl : raw = raw' := Option.some.inj (hset.symm.trans hset')
        exact hspells

theorem setting_eq_error_iff : setting vars key default rule = .error f ↔ Refused vars key rule f := by
  rw [setting, Refused]
  cases hvalue : value? vars key with
  | none =>
    have hunset := value?_eq_none_iff.1 hvalue
    constructor
    · intro h
      cases h
    · rintro ⟨raw, reason, hset, hsome, -, -⟩
      exact absurd (hunset raw hset) hsome
  | some raw =>
    obtain ⟨hset, hsome⟩ := value?_eq_some_iff.1 hvalue
    dsimp only
    rw [Except.mapError_eq_error_iff]
    constructor
    · rintro ⟨reason, hrule, rfl⟩
      exact ⟨raw, reason, hset, hsome, hrule, rfl⟩
    · rintro ⟨raw', reason, hset', -, hrule, rfl⟩
      obtain rfl : raw = raw' := Option.some.inj (hset.symm.trans hset')
      exact ⟨reason, hrule, rfl⟩

end Settings

/-! ### The rules -/

/-- The rule for numbers. -/
def numberRule (limit : Nat) (raw : String) : Except String Nat :=
  (readNumber limit (trim raw).toList).mapError NumberFault.message

/-- The rule for truth values. -/
def flagRule (raw : String) : Except String Bool :=
  match flagOfWord? (trim raw).toLower with
  | some b => .ok b
  | none => .error "expected true or false"

/-- The rule for the environment. -/
def environmentRule (raw : String) : Except String Environment :=
  match Environment.parse? raw with
  | some e => .ok e
  | none => .error "expected DEV, STAGING, or PROD"

theorem number_eq (limit default : Nat) :
    number vars key limit default = setting vars key default (numberRule limit) := by
  unfold number setting numberRule
  cases value? vars key with
  | none => rfl
  | some raw =>
    dsimp only
    cases readNumber limit (trim raw).toList <;> rfl

theorem flag_eq (default : Bool) : flag vars key default = setting vars key default flagRule := by
  unfold flag setting flagRule
  cases value? vars key with
  | none => rfl
  | some raw =>
    dsimp only
    cases flagOfWord? (trim raw).toLower <;> rfl

theorem environmentOf_eq : environmentOf vars = setting vars "ENV" .development environmentRule := by
  unfold environmentOf setting environmentRule
  cases value? vars "ENV" with
  | none => rfl
  | some raw =>
    dsimp only
    cases Environment.parse? raw <;> rfl

theorem numberRule_follows (limit : Nat) : Follows (numberRule limit) (SpellsNumber limit) where
  ok_iff := by
    intro raw n
    rw [SpellsNumber, ← readNumber_eq_ok_iff, numberRule, Except.mapError_eq_ok_iff]
  not_blank := fun _ _ => SpellsNumber.not_blank

theorem flagRule_follows : Follows flagRule (SpellsWord flagWords) where
  ok_iff := by
    intro raw b
    rw [← flagOfWord?_toLower, flagRule]
    cases flagOfWord? (trim raw).toLower <;> simp
  not_blank := fun _ _ => SpellsWord.not_blank (by decide)

theorem environmentRule_follows : Follows environmentRule (SpellsWord environmentWords) where
  ok_iff := by
    intro raw e
    rw [← parse?_eq_some_iff, environmentRule]
    cases Environment.parse? raw <;> simp
  not_blank := fun _ _ => SpellsWord.not_blank (by decide)

end Turnstile.Settings
