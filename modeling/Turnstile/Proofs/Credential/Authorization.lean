import Turnstile.Proofs.Credential.Presented

namespace Turnstile

/-!
# The texts that can be read

Which texts are credentials at all, and for which session with which token they stand.

* `Credential.parseAuthorization_eq_some` says which texts are taken apart.
* `Sessions.Presents` is "the text stands for this session with this token", and
  `Sessions.readAuthorization_eq_ok` and its companions say what is read from a text.
-/

/-- **The texts that are taken apart**: a key and a token with a hyphen between them, and no other hyphen. -/
theorem Credential.parseAuthorization_eq_some {text : String} {id : Id} {token : String} :
    parseAuthorization text = some (id, token) ↔
      ∃ (key : List Char) (n : Nat), text.toList = key ++ '-' :: token.toList ∧ '-' ∉ key ∧
        '-' ∉ token.toList ∧ Text.Numeral key n ∧ n ≤ idLimit ∧ id = n := by
  unfold parseAuthorization
  constructor
  · intro hparse
    split at hparse
    · next key chars hfields =>
      obtain ⟨htext, hkey, htoken⟩ := Text.splitOn_eq_pair_iff.1 hfields
      split at hparse
      · next n hread =>
        cases hparse
        obtain ⟨numeral, hlimit⟩ := Text.readNumber_eq_ok_iff.1 hread
        exact ⟨key, n, by rwa [String.toList_ofList], hkey, by rwa [String.toList_ofList], numeral,
          hlimit, rfl⟩
      · cases hparse
    · cases hparse
  · rintro ⟨key, n, htext, hkey, htoken, numeral, hlimit, rfl⟩
    have hread := Text.readNumber_eq_ok_iff.2 ⟨numeral, hlimit⟩
    rw [Text.splitOn_eq_pair_iff.2 ⟨htext, hkey, htoken⟩]
    simp only [hread, String.ofList_toList]

namespace Sessions

open Credential (idLimit)

/-! ### Credentials -/

/-- The text stands for a session with a token: but for blanks around it, it is the key, a hyphen, and the
    token, and there is no other hyphen. The key is read as an integer of 64 bits. -/
def Presents (authorization : String) (id : Id) (token : String) : Prop :=
  ∃ (key : List Char) (n : Nat), (Text.trim authorization).toList = key ++ '-' :: token.toList ∧
    '-' ∉ key ∧ '-' ∉ token.toList ∧ Text.Numeral key n ∧ n ≤ idLimit ∧ id = n

/-- The text is all blanks. -/
def Blank (authorization : String) : Prop := ∀ c ∈ authorization.toList, Text.isBlank c = true

variable {authorization : String} {id : Id} {token : String}

theorem parseAuthorization_eq_some_iff :
    Credential.parseAuthorization (Text.trim authorization) = some (id, token) ↔
      Presents authorization id token := Credential.parseAuthorization_eq_some

/-- A text that stands for a session is not blank. -/
theorem Presents.not_blank (presents : Presents authorization id token) : ¬ Blank authorization := by
  intro blank
  obtain ⟨key, n, htext, -⟩ := presents
  rw [Text.trim_eq_empty_iff.2 blank] at htext
  exact absurd (congrArg List.length htext) (by simp)

/-- **What is read** is the session and the token that the text stands for. -/
theorem readAuthorization_eq_ok (presents : Presents authorization id token) :
    readAuthorization authorization = .ok (id, token) := by
  have hsome : Text.trim authorization ≠ "" := fun h => presents.not_blank (Text.trim_eq_empty_iff.1 h)
  rw [readAuthorization]
  simp only [if_neg hsome, parseAuthorization_eq_some_iff.2 presents]

theorem readAuthorization_eq_missing (blank : Blank authorization) :
    readAuthorization authorization = .error .authorizationMissing := by
  rw [readAuthorization]
  exact if_pos (Text.trim_eq_empty_iff.2 blank)

theorem readAuthorization_eq_invalid (some : ¬ Blank authorization)
    (unreadable : ¬ ∃ id token, Presents authorization id token) :
    readAuthorization authorization = .error .authorizationInvalid := by
  have hsome : Text.trim authorization ≠ "" := fun h => some (Text.trim_eq_empty_iff.1 h)
  have hnone : Credential.parseAuthorization (Text.trim authorization) = none := by
    rw [Option.eq_none_iff_forall_ne_some]
    exact fun parts hparts => unreadable ⟨parts.1, parts.2, parseAuthorization_eq_some_iff.1 hparts⟩
  rw [readAuthorization]
  simp only [if_neg hsome, hnone]

end Sessions

end Turnstile
