import Turnstile.Proofs.Except
import Turnstile.Proofs.Text.Blank
import Turnstile.Proofs.Text.Reading
import Turnstile.Sessions

namespace Turnstile

/-!
# Presented credentials

What a verification reads from the credential `<session id>-<token>` that a caller presents.

* `Sessions.readAuthorization_authorizationText`: whatever text stands in the place of the token, it is read
  as it is, but for blanks behind it; a second hyphen makes the whole unreadable.
* `Sessions.Spells` is "the text is the token, but for blanks behind it", and that is when a credential reads
  as the token (`Sessions.readAuthorization_eq_ok_iff`).
-/

/-! ### Hexadecimal digits -/

namespace Text

/-- What hexadecimal text consists of are neither blanks nor hyphens. -/
theorem isBlank_of_isHexDigit {c : Char} (h : isHexDigit c = true) : isBlank c = false ∧ c ≠ '-' := by
  have hrange : 48 ≤ c.toNat ∧ c.toNat ≤ 57 ∨ 97 ≤ c.toNat ∧ c.toNat ≤ 102 := by
    simpa [isHexDigit, Char.isDigit, Char.le_def, UInt32.le_iff_toNat_le] using h
  refine ⟨?_, ?_⟩
  · simp only [isBlank, Bool.or_eq_false_iff, Bool.and_eq_false_iff, decide_eq_false_iff_not,
      beq_eq_false_iff_ne]
    omega
  · rintro rfl
    revert hrange
    decide

theorem isHexDigit_of_isDigit {c : Char} (h : c.isDigit = true) : isHexDigit c = true := by
  rw [isHexDigit, h, Bool.true_or]

end Text

/-! ### Reading a credential -/

namespace Sessions

open Credential (authorizationText idLimit)

/-- The characters of a credential: the key in decimal, a hyphen, the text in the place of the token. -/
theorem toList_authorizationText {n : Nat} (text : String) :
    (authorizationText n text).toList = Nat.toDigits 10 n ++ '-' :: text.toList := by
  have hkey : toString (n : Int) = n.repr := by
    rw [Int.toString_eq_repr, Int.repr_eq_if, if_pos (Int.natCast_nonneg n), Int.toNat_natCast]
  rw [authorizationText, hkey, String.toList_append, String.toList_append, Nat.toList_repr]
  exact List.append_assoc _ _ _

/-- Only the blanks behind the token go: the key in front starts with a digit. -/
theorem trim_authorizationText (n : Nat) (text : String) :
    Text.trim (authorizationText n text)
      = String.ofList (Nat.toDigits 10 n ++ '-' :: Text.trimRight text.toList) := by
  have hleft : Text.trimLeft (Nat.toDigits 10 n ++ '-' :: text.toList)
      = Nat.toDigits 10 n ++ '-' :: text.toList := by
    obtain ⟨d, ds, hd⟩ := List.exists_cons_of_ne_nil (Nat.toDigits_ne_nil (n := n) (b := 10))
    have hmem : d ∈ Nat.toDigits 10 n := by
      rw [hd]
      exact List.mem_cons_self
    have hdigit := Nat.isDigit_of_mem_toDigits (by decide) (by decide) hmem
    have hblank := (Text.isBlank_of_isHexDigit (Text.isHexDigit_of_isDigit hdigit)).1
    rw [hd, List.cons_append, Text.trimLeft, List.dropWhile_cons_of_neg (by simp [hblank])]
  unfold Text.trim
  rw [toList_authorizationText, Text.trimChars, hleft, Text.trimRight_append (by decide)]

/-- A key and what stands behind the hyphen, which must not have another one. -/
theorem parseAuthorization_digits {n : Nat} (hn : n ≤ idLimit) (cs : List Char) :
    Credential.parseAuthorization (String.ofList (Nat.toDigits 10 n ++ '-' :: cs))
      = if '-' ∈ cs then none else some ((n : Int), String.ofList cs) := by
  have hdigits : '-' ∉ Nat.toDigits 10 n := fun h =>
    absurd (Nat.isDigit_of_mem_toDigits (by decide) (by decide) h) (by decide)
  unfold Credential.parseAuthorization
  rw [String.toList_ofList, Text.splitOn_append hdigits]
  by_cases hmem : '-' ∈ cs
  · -- at least three fields
    obtain ⟨f, g, fs, hfields⟩ := Text.splitOn_of_mem hmem
    rw [hfields, if_pos hmem]
  · rw [Text.splitOn_eq_singleton hmem, if_neg hmem]
    simp only [Text.readNumber_toDigits hn]

/-- **Reading a credential.** A text with a hyphen of its own in the place of the token cannot be read; any
    other is read as it is, but for the blanks behind it. -/
theorem readAuthorization_authorizationText {id : Id} (hid : 0 ≤ id) (hle : id ≤ idLimit)
    (text : String) :
    readAuthorization (authorizationText id text)
      = if '-' ∈ text.toList then .error .authorizationInvalid
        else .ok (id, String.ofList (Text.trimRight text.toList)) := by
  obtain ⟨n, rfl⟩ := Int.eq_ofNat_of_zero_le hid
  have hn : n ≤ idLimit := Int.ofNat_le.1 hle
  have hhyphen : '-' ∈ Text.trimRight text.toList ↔ '-' ∈ text.toList := by
    -- a hyphen is not a blank
    obtain ⟨w, hw, htext⟩ := Text.eq_trimRight_append text.toList
    conv => rhs; rw [htext]
    rw [List.mem_append, iff_self_or]
    exact fun h => absurd (hw '-' h) (by decide)
  have hsome : String.ofList (Nat.toDigits 10 n ++ '-' :: Text.trimRight text.toList) ≠ "" := by
    intro hempty
    have hnil := congrArg String.toList hempty
    rw [String.toList_ofList] at hnil
    exact absurd hnil (by simp)
  rw [readAuthorization, trim_authorizationText]
  simp only [if_neg hsome, parseAuthorization_digits hn, hhyphen]
  by_cases hmem : '-' ∈ text.toList
  · rw [if_pos hmem, if_pos hmem]
  · rw [if_neg hmem, if_neg hmem]

/-- The text is the token, but for blanks behind it. -/
def Spells (token text : String) : Prop :=
  ∃ w : List Char, (∀ c ∈ w, Text.isBlank c = true) ∧ text.toList = token.toList ++ w

/-- A credential with a token in hexadecimal reads as this token exactly if it spells it. -/
theorem readAuthorization_eq_ok_iff {id : Id} (hid : 0 ≤ id) (hle : id ≤ idLimit) {token : String}
    (hex : ∀ c ∈ token.toList, Text.isHexDigit c = true) (text : String) :
    readAuthorization (authorizationText id text) = .ok (id, token) ↔ Spells token text := by
  have hplain : ∀ c ∈ token.toList, Text.isBlank c = false :=
    fun c hc => (Text.isBlank_of_isHexDigit (hex c hc)).1
  rw [readAuthorization_authorizationText hid hle]
  constructor
  · intro hread
    split at hread
    · cases hread
    · obtain ⟨w, hw, htext⟩ := Text.eq_trimRight_append text.toList
      have htoken : String.ofList (Text.trimRight text.toList) = token :=
        (Prod.mk.inj (Except.ok.inj hread)).2
      have hchars := congrArg String.toList htoken
      rw [String.toList_ofList] at hchars
      exact ⟨w, hw, by rw [← hchars]; exact htext⟩
  · rintro ⟨w, hw, htext⟩
    have hhyphen : '-' ∉ text.toList := by
      rw [htext, List.mem_append, not_or]
      exact ⟨fun h => (Text.isBlank_of_isHexDigit (hex '-' h)).2 rfl,
        fun h => absurd (hw '-' h) (by decide)⟩
    rw [if_neg hhyphen, htext, Text.trimRight_eq_of_blank hplain hw, String.ofList_toList]

end Sessions

/-! ### Issuing a token -/

namespace Credential

/-- The text has the form of a token: a digest of 32 bytes in hexadecimal. -/
structure IsToken (text : String) : Prop where
  length : text.toList.length = 64
  hex : ∀ c ∈ text.toList, Text.isHexDigit c = true

theorem isToken_hexDigest (m : ByteArray) : IsToken (Digest.Sha256.hexDigest m) := by
  have hdigest : (Digest.Sha256.hexDigest m).toList = Text.hex (Digest.Sha256.digest m) :=
    String.toList_ofList
  refine ⟨?_, fun c hc => ?_⟩
  · rw [hdigest, Text.hex_length, Digest.Sha256.digest_length]
  · rw [hdigest] at hc
    exact Text.hex_digit _ c hc

/-- A token has neither blanks nor hyphens in it. -/
theorem IsToken.plain {token : String} (h : IsToken token) :
    (∀ c ∈ token.toList, Text.isBlank c = false) ∧ '-' ∉ token.toList :=
  ⟨fun c hc => (Text.isBlank_of_isHexDigit (h.hex c hc)).1,
    fun hc => (Text.isBlank_of_isHexDigit (h.hex '-' hc)).2 rfl⟩

/-- An issued token has the form of one, and its hash was made from it. -/
theorem tokenCreate_ok {h : Hasher} {draw : Draw} {issued : IssuedToken}
    (hissued : tokenCreate h draw = .ok issued) :
    IsToken issued.token ∧ h.create draw.tokenSalt issued.token = .ok issued.hash := by
  obtain ⟨seedHash, -, hissued⟩ := Except.ok_of_bind hissued
  obtain ⟨hash, hhash, hissued⟩ := Except.ok_of_bind hissued
  cases hissued
  exact ⟨isToken_hexDigest _, hhash⟩

end Credential

end Turnstile
