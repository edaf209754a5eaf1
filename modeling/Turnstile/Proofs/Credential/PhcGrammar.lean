import Turnstile.Credential.Phc
import Turnstile.Proofs.Text.Base64
import Turnstile.Proofs.Text.Reading

namespace Turnstile.Credential.Phc

/-!
# The texts that are PHC strings

Reading and writing PHC strings undo each other, so that each record has one text.

* `WellFormed` holds of the records that can be written so that they are read again.
* `takeVersion_eq_some_iff`, `takeParams_eq_some_iff` and `takeSalt_eq_some_iff` say what is taken off
  the front of the fields: the field as it is written, or nothing where what follows does not look like
  it.
* `parse_eq_some_iff` puts them together: a text is read as a record exactly if it is what is written of a
  well-formed one.
-/

open Text (splitOn joinWith)

/-! ### Numbers, parameters and digests -/

/-- **Numbers** are read from their decimal forms. -/
theorem number?_eq_some_iff {cs : List Char} {n : Nat} :
    number? cs = some n ↔ cs = numberText n ∧ n ≤ numberLimit := by
  have hvalue (cs : List Char) : digitsValue cs = Nat.ofDigitChars 10 cs 0 := rfl
  unfold number? numberText
  rw [hvalue, Option.ite_none_right_eq_some]
  simp only [Bool.and_eq_true, bne_iff_ne, List.all_eq_true, Bool.or_eq_true, decide_eq_true_eq,
    Option.some.injEq]
  constructor
  · rintro ⟨⟨⟨⟨hsome, hdigits⟩, hlead⟩, hle⟩, rfl⟩
    exact ⟨(Text.toDigits_ofDigitChars hsome hdigits hlead).symm, hle⟩
  · rintro ⟨rfl, hle⟩
    rw [Nat.ofDigitChars_ten_toDigits]
    refine ⟨⟨⟨⟨Nat.toDigits_ne_nil, fun c hc => ?_⟩, ?_⟩, hle⟩, rfl⟩
    · exact Nat.isDigit_of_mem_toDigits (by decide) (by decide) hc
    · by_cases hzero : n = 0
      · subst hzero
        exact .inl rfl
      · exact .inr (Text.head?_toDigits_ne_zero hzero)

/-- There are only digits in numbers. -/
theorem not_mem_numberText {c : Char} (hc : c.isDigit = false) (n : Nat) : c ∉ numberText n := by
  intro hmem
  rw [Nat.isDigit_of_mem_toDigits (by decide) (by decide) hmem] at hc
  cases hc

/-- There are no separators in names. -/
theorem not_mem_of_isName {cs : List Char} (h : isName cs = true) : '=' ∉ cs ∧ ',' ∉ cs ∧ '$' ∉ cs := by
  have hall : ∀ c ∈ cs, isNameChar c = true := by
    simp only [isName, Bool.and_eq_true, List.all_eq_true] at h
    exact h.2
  refine ⟨fun hc => ?_, fun hc => ?_, fun hc => ?_⟩ <;> exact absurd (hall _ hc) (by decide)

/-- Nor are there in values. -/
theorem not_mem_of_isValue {cs : List Char} (h : isValue cs = true) : '=' ∉ cs ∧ ',' ∉ cs ∧ '$' ∉ cs := by
  have hall : ∀ c ∈ cs, isValueChar c = true := by
    simp only [isValue, Bool.and_eq_true, List.all_eq_true] at h
    exact h.2
  refine ⟨fun hc => ?_, fun hc => ?_, fun hc => ?_⟩ <;> exact absurd (hall _ hc) (by decide)

/-- The name and the value of a parameter are of the right form. -/
def IsParam (x : List Char × List Char) : Prop := isName x.1 = true ∧ isValue x.2 = true

/-- **One parameter** is read from its text. -/
theorem param?_eq_some_iff {cs : List Char} {x : List Char × List Char} :
    param? cs = some x ↔ IsParam x ∧ cs = paramText x := by
  unfold param? IsParam paramText
  constructor
  · intro h
    split at h
    · next name value hfields =>
      split at h
      · next hform =>
        cases h
        exact ⟨by simpa using hform, (Text.splitOn_eq_pair_iff.1 hfields).1⟩
      · cases h
    · cases h
  · rintro ⟨⟨hname, hvalue⟩, rfl⟩
    rw [Text.splitOn_eq_pair_iff.2 ⟨rfl, (not_mem_of_isName hname).1, (not_mem_of_isValue hvalue).1⟩]
    simp only [hname, hvalue, Bool.and_self, if_true]

/-- No other separators are in the text of a parameter. -/
theorem not_mem_paramText {x : List Char × List Char} (h : IsParam x) :
    ',' ∉ paramText x ∧ '$' ∉ paramText x := by
  obtain ⟨-, hname, hname'⟩ := not_mem_of_isName h.1
  obtain ⟨-, hvalue, hvalue'⟩ := not_mem_of_isValue h.2
  simp [paramText, hname, hname', hvalue, hvalue']

/-- The text of parameters. -/
def paramsText (ps : List (List Char × List Char)) : List Char := joinWith ',' (ps.map paramText)

/-- The parameters are of the right form, and their text is short enough. -/
structure AreParams (ps : List (List Char × List Char)) : Prop where
  each : ∀ x ∈ ps, IsParam x
  size : (String.ofList (paramsText ps)).utf8ByteSize ≤ 127

/-- **Parameters** are read from their text. -/
theorem params?_eq_some_iff {cs : List Char} {ps : List (List Char × List Char)} :
    params? cs = some ps ↔ ps ≠ [] ∧ AreParams ps ∧ cs = paramsText ps := by
  have hmap : ∀ {fs : List (List Char)} {ps : List (List Char × List Char)},
      fs.mapM param? = some ps ↔ (∀ x ∈ ps, IsParam x) ∧ fs = ps.map paramText := by
    intro fs
    induction fs with
    | nil => intro ps; cases ps <;> simp
    | cons f fs ih =>
      intro ps
      rw [List.mapM_cons]
      simp only [Option.bind_eq_bind, Option.bind_eq_some_iff, Option.pure_def, Option.some.injEq, ih,
        param?_eq_some_iff]
      cases ps with
      | nil => simp
      | cons x xs =>
        simp only [List.cons.injEq, List.forall_mem_cons, List.map_cons]
        constructor
        · rintro ⟨y, ⟨hy, rfl⟩, ys, ⟨hys, rfl⟩, rfl, rfl⟩
          exact ⟨⟨hy, hys⟩, rfl, rfl⟩
        · rintro ⟨⟨hx, hxs⟩, rfl, rfl⟩
          exact ⟨x, ⟨hx, rfl⟩, xs, ⟨hxs, rfl⟩, rfl, rfl⟩
  rw [params?, Option.ite_none_right_eq_some, hmap, Text.splitOn_eq_iff]
  constructor
  · rintro ⟨hsize, heach, hsome, -, rfl⟩
    exact ⟨fun hnil => hsome (by rw [hnil, List.map_nil]), ⟨heach, hsize⟩, rfl⟩
  · rintro ⟨hsome, hps, rfl⟩
    refine ⟨hps.size, hps.each, fun hnil => hsome (List.map_eq_nil_iff.1 hnil), ?_, rfl⟩
    rw [List.forall_mem_map]
    exact fun x hx => (not_mem_paramText (hps.each x hx)).1

/-- **A digest** is read from its base64 text, if it is neither too short nor too long. -/
theorem digest?_eq_some_iff {cs : List Char} {bytes : List UInt8} :
    digest? cs = some bytes ↔ (10 ≤ bytes.length ∧ bytes.length ≤ 64) ∧ cs = Text.Base64.encode bytes := by
  rw [digest?, Option.filter_eq_some_iff, Text.Base64.decode_eq_some_iff, Bool.and_eq_true,
    decide_eq_true_eq, decide_eq_true_eq, and_comm]

/-! ### Optional fields -/

/-- The field of the version. -/
def versionFields : Option Nat → List (List Char)
  | none => []
  | some n => ['v' :: '=' :: numberText n]

/-- The field of the parameters. -/
def paramsFields (ps : List (List Char × List Char)) : List (List Char) :=
  if ps.isEmpty then [] else [paramsText ps]

/-- The field of the salt. -/
def saltFields : Option (List Char) → List (List Char)
  | none => []
  | some salt => [salt]

/-- The field of the digest. -/
def digestFields : Option (List UInt8) → List (List Char)
  | none => []
  | some bytes => [Text.Base64.encode bytes]

theorem fields_eq (p : Phc) : p.fields = p.algorithm ::
    (versionFields p.version
      ++ (paramsFields p.params ++ (saltFields p.salt ++ digestFields p.digest))) := by
  rw [fields, List.append_assoc, List.append_assoc, List.append_assoc, List.singleton_append]
  rfl

/-- The field is taken for a version: it starts like one, and there is only one parameter in it. -/
def LooksVersioned (f : List Char) : Prop := ∃ cs, f = 'v' :: '=' :: cs ∧ ',' ∉ cs

variable {fs rest : List (List Char)} {version : Option Nat} {ps : List (List Char × List Char)}
  {salt : Option (List Char)} {digest : Option (List UInt8)}

/-- **Taking the version** off the front of the fields. -/
theorem takeVersion_eq_some_iff : takeVersion fs = some (version, rest) ↔
    fs = versionFields version ++ rest ∧ (∀ n, version = some n → n ≤ numberLimit) ∧
      (version = none → ∀ f ∈ rest.head?, ¬ LooksVersioned f) := by
  by_cases hlooks : ∃ cs fs', fs = ('v' :: '=' :: cs) :: fs' ∧ ',' ∉ cs
  · obtain ⟨cs, fs, rfl, hcs⟩ := hlooks
    rw [takeVersion, if_neg hcs, Option.map_eq_some_iff]
    simp only [number?_eq_some_iff, Prod.mk.injEq]
    constructor
    · rintro ⟨n, ⟨rfl, hle⟩, rfl, rfl⟩
      exact ⟨rfl, fun _ h => Option.some.inj h ▸ hle, fun h => nomatch h⟩
    · rintro ⟨hfs, hle, hplain⟩
      cases version with
      | none =>
        -- the field would be left, but it looks like a version
        obtain rfl : _ = rest := hfs
        exact absurd ⟨cs, rfl, hcs⟩ (hplain rfl _ rfl)
      | some n =>
        obtain ⟨hf, rfl⟩ := List.cons.inj hfs
        obtain rfl : cs = numberText n := (List.cons.inj (List.cons.inj hf).2).2
        exact ⟨n, ⟨rfl, hle n rfl⟩, rfl, rfl⟩
  · have htake : takeVersion fs = some (none, fs) := by
      unfold takeVersion
      split
      · next cs fs' =>
        by_cases hcs : ',' ∈ cs
        · rw [if_pos hcs]
        · exact absurd ⟨cs, fs', rfl, hcs⟩ hlooks
      · rfl
    rw [htake]
    constructor
    · rintro ⟨⟩
      refine ⟨rfl, (fun _ h => nomatch h), fun _ f hf => ?_⟩
      rintro ⟨cs, rfl, hcs⟩
      obtain ⟨fs', rfl⟩ := List.head?_eq_some_iff.1 (Option.mem_def.1 hf)
      exact hlooks ⟨cs, fs', rfl, hcs⟩
    · rintro ⟨rfl, -, -⟩
      cases version with
      | none => rfl
      | some n => exact absurd ⟨numberText n, rest, rfl, not_mem_numberText (by decide) n⟩ hlooks

/-- **Taking the parameters** off the front of the fields. -/
theorem takeParams_eq_some_iff : takeParams fs = some (ps, rest) ↔
    fs = paramsFields ps ++ rest ∧ AreParams ps ∧ (ps = [] → ∀ f ∈ rest.head?, '=' ∉ f) := by
  have hnone : AreParams [] := ⟨fun _ h => absurd h List.not_mem_nil, by decide⟩
  have hequal (x : List Char × List Char) (xs : List (List Char × List Char)) :
      '=' ∈ paramsText (x :: xs) := by
    cases xs <;> simp [paramsText, joinWith, paramText]
  cases fs with
  | nil =>
    rw [takeParams]
    constructor
    · rintro ⟨⟩
      exact ⟨rfl, hnone, fun _ f hf => absurd hf (Option.not_mem_none f)⟩
    · rintro ⟨hfs, -, -⟩
      obtain ⟨hps, rfl⟩ := List.append_eq_nil_iff.1 hfs.symm
      cases ps with
      | nil => rfl
      | cons x xs => cases hps
  | cons f fs =>
    by_cases hf : '=' ∈ f
    · rw [takeParams, if_pos hf, Option.map_eq_some_iff]
      simp only [params?_eq_some_iff, Prod.mk.injEq]
      constructor
      · rintro ⟨ps, ⟨hsome, hps, rfl⟩, rfl, rfl⟩
        obtain ⟨x, xs, rfl⟩ := List.exists_cons_of_ne_nil hsome
        exact ⟨rfl, hps, fun h => absurd h (List.cons_ne_nil _ _)⟩
      · rintro ⟨hfs, hps, hplain⟩
        cases ps with
        | nil =>
          obtain rfl : _ = rest := hfs
          exact absurd hf (hplain rfl _ rfl)
        | cons x xs =>
          obtain ⟨rfl, rfl⟩ := List.cons.inj hfs
          exact ⟨_, ⟨List.cons_ne_nil _ _, hps, rfl⟩, rfl, rfl⟩
    · rw [takeParams, if_neg hf]
      constructor
      · rintro ⟨⟩
        exact ⟨rfl, hnone, fun _ g hg => Option.some.inj hg ▸ hf⟩
      · rintro ⟨hfs, -, -⟩
        cases ps with
        | nil => rw [hfs]; rfl
        | cons x xs =>
          obtain ⟨rfl, -⟩ := List.cons.inj hfs
          exact absurd (hequal x xs) hf

/-- **Taking salt and digest**, which are all that is left. -/
theorem takeSalt_eq_some_iff : takeSalt fs = some (salt, digest) ↔
    fs = saltFields salt ++ digestFields digest ∧ (∀ cs, salt = some cs → isSalt cs = true) ∧
      (∀ bytes, digest = some bytes → 10 ≤ bytes.length ∧ bytes.length ≤ 64) ∧
      (salt = none → digest = none) := by
  constructor
  · intro h
    unfold takeSalt at h
    split at h
    · cases h
      exact ⟨rfl, (fun _ h => nomatch h), (fun _ h => nomatch h), fun _ => rfl⟩
    · split at h
      · next hsalt =>
        cases h
        exact ⟨rfl, fun _ h => Option.some.inj h ▸ hsalt, (fun _ h => nomatch h), fun _ => rfl⟩
      · cases h
    · split at h
      · next hsalt =>
        obtain ⟨bytes, hbytes, heq⟩ := Option.map_eq_some_iff.1 h
        cases heq
        obtain ⟨hlength, rfl⟩ := digest?_eq_some_iff.1 hbytes
        exact ⟨rfl, fun _ h => Option.some.inj h ▸ hsalt, fun _ h => Option.some.inj h ▸ hlength,
          fun h => nomatch h⟩
      · cases h
    · cases h
  · rintro ⟨rfl, hsalt, hdigest, hsalted⟩
    cases salt with
    | none =>
      obtain rfl := hsalted rfl
      rfl
    | some cs =>
      cases digest with
      | none =>
        show takeSalt [cs] = _
        rw [takeSalt, if_pos (hsalt cs rfl)]
      | some bytes =>
        show takeSalt [cs, Text.Base64.encode bytes] = _
        rw [takeSalt, if_pos (hsalt cs rfl), digest?_eq_some_iff.2 ⟨hdigest bytes rfl, rfl⟩]
        rfl

/-! ### Whole texts -/

/-- The record can be written: each field is of the right form, there is no digest without a salt, and where
    there is no version, the parameters are not taken for one. -/
structure WellFormed (p : Phc) : Prop where
  algorithm : isName p.algorithm = true
  version : ∀ n, p.version = some n → n ≤ numberLimit
  params : AreParams p.params
  salt : ∀ cs, p.salt = some cs → isSalt cs = true
  digest : ∀ bytes, p.digest = some bytes → 10 ≤ bytes.length ∧ bytes.length ≤ 64
  salted : p.salt = none → p.digest = none
  unversioned : p.version = none → ∀ value, p.params ≠ [(['v'], value)]

/-- There are no equality signs in salts. -/
theorem not_mem_of_isSalt {cs : List Char} (h : isSalt cs = true) : '=' ∉ cs ∧ '$' ∉ cs := by
  rw [isSalt, Bool.and_eq_true] at h
  obtain ⟨hequal, -, hdollar⟩ := not_mem_of_isValue h.1
  exact ⟨hequal, hdollar⟩

/-- Parameters are taken for a version exactly if there is only one, with the version's name. -/
theorem looksVersioned_paramsText_iff (hps : AreParams ps) :
    LooksVersioned (paramsText ps) ↔ ∃ value, ps = [(['v'], value)] := by
  constructor
  · rintro ⟨cs, htext, hcs⟩
    match ps, hps with
    | [], _ => cases htext
    | [x], hps =>
      -- the name ends at the first equality sign
      have hx := hps.each x List.mem_cons_self
      have hfields := Text.splitOn_append (not_mem_of_isName hx.1).1 x.2
      have hversion : Text.splitOn '=' (['v'] ++ '=' :: cs) = ['v'] :: Text.splitOn '=' cs :=
        Text.splitOn_append (by decide) cs
      rw [show x.1 ++ '=' :: x.2 = ['v'] ++ '=' :: cs from htext, hversion] at hfields
      exact ⟨x.2, by rw [(List.cons.inj hfields).1]⟩
    | x :: y :: xs, hps =>
      -- there is a comma behind the first parameter
      have hcomma : ',' ∈ paramsText (x :: y :: xs) := by
        simp [paramsText, joinWith]
      rw [htext] at hcomma
      simp only [List.mem_cons] at hcomma
      rcases hcomma with h | h | h
      · exact absurd h (by decide)
      · exact absurd h (by decide)
      · exact absurd h hcs
  · rintro ⟨value, rfl⟩
    have hvalue := (hps.each _ List.mem_cons_self).2
    exact ⟨value, rfl, (not_mem_of_isValue hvalue).2.1⟩

/-- The separator of fields is in none of the parameters, -/
theorem dollar_not_mem_paramsText (hps : ∀ x ∈ ps, IsParam x) : '$' ∉ paramsText ps := by
  induction ps with
  | nil => simp [paramsText, joinWith]
  | cons x xs ih =>
    obtain ⟨hx, hxs⟩ := List.forall_mem_cons.1 hps
    cases xs with
    | nil => exact (not_mem_paramText hx).2
    | cons y ys =>
      have hrest := ih hxs
      simp only [paramsText, List.map_cons, joinWith] at hrest ⊢
      simp [(not_mem_paramText hx).2, hrest]

/-- and in no base64 text. -/
theorem dollar_not_mem_encode (bytes : List UInt8) : '$' ∉ Text.Base64.encode bytes := by
  intro hmem
  obtain ⟨n, hn, heq⟩ := Text.Base64.exists_digit hmem
  exact Text.Base64.digit_ne_dollar n hn heq.symm

/-- Of a well-formed record, no field has the separator in it. -/
theorem WellFormed.not_mem_fields {p : Phc} (h : p.WellFormed) : ∀ f ∈ p.fields, '$' ∉ f := by
  intro f hf
  simp only [fields_eq, List.mem_cons, List.mem_append] at hf
  rcases hf with rfl | hf | hf | hf | hf
  · exact (not_mem_of_isName h.algorithm).2.2
  · cases hversion : p.version with
    | none => simp [hversion, versionFields] at hf
    | some n =>
      rw [hversion, versionFields, List.mem_singleton] at hf
      have hnumber : '$' ∉ numberText n := not_mem_numberText (by decide) n
      simp [hf, hnumber]
  · unfold paramsFields at hf
    split at hf
    · cases hf
    · exact List.mem_singleton.1 hf ▸ dollar_not_mem_paramsText h.params.each
  · cases hsalt : p.salt with
    | none => simp [hsalt, saltFields] at hf
    | some cs =>
      rw [hsalt, saltFields, List.mem_singleton] at hf
      exact hf ▸ (not_mem_of_isSalt (h.salt cs hsalt)).2
  · cases hdigest : p.digest with
    | none => simp [hdigest, digestFields] at hf
    | some bytes =>
      rw [hdigest, digestFields, List.mem_singleton] at hf
      exact hf ▸ dollar_not_mem_encode bytes

/-- What stands behind the version does not look like one, where there is none. -/
theorem not_looksVersioned_iff (hps : AreParams ps) (hsalt : ∀ cs, salt = some cs → isSalt cs = true)
    (hsalted : salt = none → digest = none) :
    (∀ f ∈ (paramsFields ps ++ (saltFields salt ++ digestFields digest)).head?, ¬ LooksVersioned f) ↔
      ∀ value, ps ≠ [(['v'], value)] := by
  cases ps with
  | nil =>
    refine ⟨(fun _ value h => nomatch h), fun _ f hf => ?_⟩
    cases salt with
    | none =>
      obtain rfl := hsalted rfl
      cases hf
    | some cs =>
      obtain rfl : cs = f := Option.some.inj hf
      rintro ⟨cs, rfl, -⟩
      exact (not_mem_of_isSalt (hsalt _ rfl)).1 (by simp)
  | cons x xs =>
    have hhead : ∀ f ∈ (paramsFields (x :: xs) ++ (saltFields salt ++ digestFields digest)).head?,
        f = paramsText (x :: xs) := fun f hf => (Option.some.inj hf).symm
    rw [← not_exists, ← looksVersioned_paramsText_iff hps]
    exact ⟨fun h => h _ rfl, fun h f hf => hhead f hf ▸ h⟩

/-- **The PHC strings** are what is written of well-formed records, and each is read as the record that it
    was written of. -/
theorem parse_eq_some_iff {s : String} {p : Phc} : parse s = some p ↔ p.WellFormed ∧ s = p.render := by
  -- the fields behind the name, taken off one after the other
  have hfields {fs : List (List Char)} {v : Option Nat} {ps : List (List Char × List Char)}
      {salt : Option (List Char)} {digest : Option (List UInt8)} :
      (∃ fs₁ fs₂, takeVersion fs = some (v, fs₁) ∧ takeParams fs₁ = some (ps, fs₂) ∧
        takeSalt fs₂ = some (salt, digest)) ↔
      fs = versionFields v ++ (paramsFields ps ++ (saltFields salt ++ digestFields digest)) ∧
        (∀ n, v = some n → n ≤ numberLimit) ∧ AreParams ps ∧ (∀ cs, salt = some cs → isSalt cs = true) ∧
        (∀ bytes, digest = some bytes → 10 ≤ bytes.length ∧ bytes.length ≤ 64) ∧
        (salt = none → digest = none) ∧ (v = none → ∀ value, ps ≠ [(['v'], value)]) := by
    simp only [takeVersion_eq_some_iff, takeParams_eq_some_iff, takeSalt_eq_some_iff]
    constructor
    · rintro ⟨_, _, ⟨rfl, hversion, hlooks⟩, ⟨rfl, hps, -⟩, rfl, hsalt, hdigest, hsalted⟩
      exact ⟨rfl, hversion, hps, hsalt, hdigest, hsalted,
        fun hnone => (not_looksVersioned_iff hps hsalt hsalted).1 (hlooks hnone)⟩
    · rintro ⟨rfl, hversion, hps, hsalt, hdigest, hsalted, hunversioned⟩
      refine ⟨_, _, ⟨rfl, hversion, fun hnone => ?_⟩, ⟨rfl, hps, ?_⟩, rfl, hsalt, hdigest, hsalted⟩
      · exact (not_looksVersioned_iff hps hsalt hsalted).2 (hunversioned hnone)
      · -- what stands behind missing parameters is a salt
        rintro - f hf
        cases salt with
        | none =>
          obtain rfl := hsalted rfl
          cases hf
        | some cs =>
          obtain rfl : cs = f := Option.some.inj hf
          exact (not_mem_of_isSalt (hsalt _ rfl)).1
  unfold parse parseChars
  constructor
  · intro h
    split at h
    · next name fs hsplit =>
      split at h
      · next hname =>
        simp only [Option.bind_eq_bind, Option.bind_eq_some_iff, Option.pure_def, Option.some.injEq] at h
        obtain ⟨⟨v, fs₁⟩, hversion, ⟨ps, fs₂⟩, hparams, ⟨salt, digest⟩, hsalt, rfl⟩ := h
        obtain ⟨rfl, hrest⟩ := hfields.1 ⟨fs₁, fs₂, hversion, hparams, hsalt⟩
        obtain ⟨hversion, hps, hsalt, hdigest, hsalted, hunversioned⟩ := hrest
        refine ⟨⟨hname, hversion, hps, hsalt, hdigest, hsalted, hunversioned⟩, ?_⟩
        rw [render, fields_eq, ← (Text.splitOn_eq_nil_cons_iff.1 hsplit).2, String.ofList_toList]
      · cases h
    · cases h
  · rintro ⟨wellFormed, rfl⟩
    rw [render, String.toList_ofList, Text.splitOn_eq_nil_cons_iff.2 ⟨wellFormed.not_mem_fields, rfl⟩,
      fields_eq]
    obtain ⟨fs₁, fs₂, hversion, hparams, hsalt⟩ := hfields.2 ⟨rfl, wellFormed.version, wellFormed.params,
      wellFormed.salt, wellFormed.digest, wellFormed.salted, wellFormed.unversioned⟩
    simp only [if_pos wellFormed.algorithm, hversion, hparams, hsalt, Option.bind_eq_bind, Option.bind_some]
    rfl

end Turnstile.Credential.Phc
