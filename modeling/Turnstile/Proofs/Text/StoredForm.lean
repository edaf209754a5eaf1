import Turnstile.Email
import Turnstile.PersonName
import Turnstile.Proofs.Text.Blank
import Turnstile.Proofs.Text.Case

namespace Turnstile

open Text

/-!
# Stored forms stay as they are

Addresses and names are stored trimmed and in one case. What is stored is in stored form itself, so it makes
no difference whether a field is put in stored form once more.

* `Text.Trimmed.pieces`: capitals and small letters keep a text trimmed.
* `Email.canonical_canonical` and `PersonName.canonical_canonical` are the results.
* `Email.Stored` and `PersonName.Stored` hold of texts that may be stored as they are.
-/

namespace Text

/-! ### Mapped texts -/

/-- A mapped text begins with a blank only if the text did. -/
theorem noBlankFirst_pieces {cs : List Char} {pieces : List (List Char)} (h : List.Forall₂ MapsTo cs pieces)
    (hcs : NoBlankFirst cs) : NoBlankFirst pieces.flatten := by
  cases h with
  | nil => exact hcs
  | @cons c piece _ _ hpiece _ =>
    obtain ⟨d, ds, rfl⟩ := List.exists_cons_of_ne_nil hpiece.ne_nil
    intro e he
    obtain rfl : d = e := Option.some.inj he
    exact hpiece.visible (hcs c rfl) d List.mem_cons_self

/-- Read backwards, a mapped text consists of its pieces read backwards. -/
theorem reverse_pieces {cs : List Char} {pieces : List (List Char)} (h : List.Forall₂ MapsTo cs pieces) :
    List.Forall₂ MapsTo cs.reverse (pieces.map List.reverse).reverse := by
  rw [List.forall₂_reverse_iff, List.forall₂_map_right_iff]
  refine h.imp fun c piece hpiece => ⟨?_, fun hc d hd => ?_⟩
  · exact fun hnil => hpiece.ne_nil (List.reverse_eq_nil_iff.1 hnil)
  · exact hpiece.visible hc d (List.mem_reverse.1 hd)

/-- **Mapping letters keeps a text trimmed.** -/
theorem Trimmed.pieces {cs : List Char} {pieces : List (List Char)} (h : List.Forall₂ MapsTo cs pieces)
    (hcs : Trimmed cs) : Trimmed pieces.flatten := by
  refine ⟨noBlankFirst_pieces h hcs.first, ?_⟩
  rw [List.reverse_flatten]
  exact noBlankFirst_pieces (reverse_pieces h) hcs.last

end Text

/-! ### Addresses and names -/

/-- **The stored form of an address is its own stored form.** -/
theorem Email.canonical_canonical (raw : String) :
    Email.canonical (Email.canonical raw) = Email.canonical raw := by
  obtain ⟨pieces, hpieces, heq⟩ := lowerFrom_pieces [] (trimChars raw.toList)
  have htrimmed : Trimmed (lowerChars (trimChars raw.toList)) := by
    rw [lowerChars, heq]
    exact (trimmed_trimChars raw.toList).pieces hpieces
  simp only [canonical, canonicalChars, String.toList_ofList]
  rw [htrimmed.trimChars_eq, lowerChars_lowerChars]

/-- **The stored form of a name is its own stored form.** -/
theorem PersonName.canonical_canonical (raw : String) :
    PersonName.canonical (PersonName.canonical raw) = PersonName.canonical raw := by
  obtain ⟨pieces, hpieces, heq⟩ := upperChars_pieces (trimChars raw.toList)
  have htrimmed : Trimmed (upperChars (trimChars raw.toList)) := by
    rw [heq]
    exact (trimmed_trimChars raw.toList).pieces hpieces
  simp only [canonical, canonicalChars, String.toList_ofList]
  rw [htrimmed.trimChars_eq, upperChars_upperChars]

/-! ### Stored fields -/

/-- The text is an address in its stored form. -/
structure Email.Stored (email : String) : Prop where
  canonical : Email.canonical email = email
  format : Email.isFormat email = true

/-- The text is a name in its stored form. -/
structure PersonName.Stored (name : String) : Prop where
  canonical : PersonName.canonical name = name
  length : 2 ≤ name.length

end Turnstile
