import Turnstile.Credential.Token
import Turnstile.Proofs.Credential.Recipe
import Turnstile.Proofs.Except

namespace Turnstile

/-!
# Stored hashes

What is written when a secret is hashed is read back when a candidate is compared with it.

* `Credential.stores_of_hashCreate`: a new hash stores the recipe that it was made by, so that it is read
  as what was written, and matches its own secret (`Credential.hashCompare_of_hashCreate`).
* `Hasher.Reliable` is what the services count on of a way to hash secrets, and `Hasher.argon2_reliable`
  says that they can. `Hasher.Reliable.tokenCreate`: then a token can be issued whatever is drawn.
* `Credential.hashes_exact` is the whole: which secrets can be hashed, and which candidates match which
  texts.
-/

/-! ### Lengths -/

namespace Digest

theorem Blake2b.digest_length {n : Nat} (hn : n ≤ 64) (msg : ByteArray) :
    (Blake2b.digest n msg).length = n := by
  have hwords (v : Vector UInt64 8) : (v.toList.flatMap Blake2b.wordBytes).length = 64 := by
    simp [List.length_flatMap, Blake2b.wordBytes, List.map_const']
  rw [Blake2b.digest, List.length_take, hwords]
  exact Nat.min_eq_left hn

theorem Argon2.tag_length {x : Argon2.Inputs} (hx : x.length ≤ 64) : (Argon2.tag x).length = x.length := by
  rw [Argon2.tag, Argon2.longDigest, if_pos hx]
  exact Blake2b.digest_length hx _

end Digest

namespace Credential

open Digest

/-! ### New hashes -/

section NewHash

variable {salt : Salt} {secret hash : String} {tag : List UInt8}

theorem isValueChar_digit : ∀ n < 64, Phc.isValueChar (Text.Base64.digit n) = true := by decide +kernel

theorem isSalt_encode (salt : Salt) : Phc.isSalt (Text.Base64.encode salt.bytes) = true := by
  have hlength : (Text.Base64.encode salt.bytes).length = 22 := by
    rw [Text.Base64.encode_length, salt.length_eq]
  have hchars : (Text.Base64.encode salt.bytes).all Phc.isValueChar = true := by
    rw [List.all_eq_true]
    intro c hc
    obtain ⟨n, hn, rfl⟩ := Text.Base64.exists_digit hc
    exact isValueChar_digit n hn
  simp [Phc.isSalt, Phc.isValue, hlength, hchars]

/-- The recipe of a new hash. -/
def Recipe.new (salt : Salt) (tag : List UInt8) : Recipe where
  variant := .id
  version := some .v19
  settings := [.memory defaultCost.memory, .passes defaultCost.passes, .lanes defaultCost.lanes]
  salt := salt.bytes
  tag := tag

theorem Recipe.phc_new (salt : Salt) (tag : List UInt8) : (Recipe.new salt tag).phc = newPhc salt tag := rfl

/-- **A new hash can be read.** -/
theorem wellFormed_newPhc (htag : 10 ≤ tag.length ∧ tag.length ≤ 64) : (newPhc salt tag).WellFormed where
  algorithm := show Phc.isName (variantName .id).toList = true by decide
  version := by
    rintro n ⟨⟩
    decide
  params := by
    show Phc.AreParams
      [(['m'], Phc.numberText defaultCost.memory), (['t'], Phc.numberText defaultCost.passes),
      (['p'], Phc.numberText defaultCost.lanes)]
    refine ⟨?_, by decide +kernel⟩
    simp only [Phc.IsParam]
    decide +kernel
  salt := by
    rintro cs ⟨⟩
    exact isSalt_encode salt
  digest := by
    rintro bytes ⟨⟩
    exact htag
  salted := fun h => nomatch h
  unversioned := fun h => nomatch h

theorem Recipe.valid_new (htag : 10 ≤ tag.length ∧ tag.length ≤ 64) : (Recipe.new salt tag).Valid where
  fits := by
    show ∀ s ∈ [Setting.memory defaultCost.memory, .passes defaultCost.passes,
        .lanes defaultCost.lanes], s.Fits
    simp only [List.forall_mem_cons, List.not_mem_nil, false_imp_iff, implies_true, and_true, Setting.Fits]
    decide
  affordable := show Affordable defaultCost from ⟨by decide, by decide, by decide, by decide⟩
  salt := by
    show 8 ≤ salt.bytes.length
    rw [salt.length_eq]
    decide
  wellFormed := wellFormed_newPhc htag

/-- The tag of a new hash. -/
theorem length_newTag (salt : Salt) (secret : String) :
    (Argon2.tag (newInputs salt secret)).length = defaultLength :=
  Argon2.tag_length (x := newInputs salt secret) (by decide : defaultLength ≤ 64)

/-- **A new hash stores its recipe.** -/
theorem stores_of_hashCreate (h : hashCreate salt secret = .ok hash) :
    secret.utf8ByteSize ≤ secretLimit ∧ Stores hash (.new salt (Argon2.tag (newInputs salt secret))) := by
  unfold hashCreate at h
  split at h
  · cases h
  · split at h
    · cases h
    · next hlong =>
      cases h
      refine ⟨Nat.le_of_not_lt hlong, rfl, Recipe.valid_new ?_⟩
      rw [length_newTag]
      decide

/-- Its computation is the one that it was made by, with the candidate for the secret. -/
theorem Recipe.inputs_new (candidate : String) (htag : tag.length = defaultLength) :
    (Recipe.new salt tag).inputs candidate = newInputs salt candidate := by
  simp only [Recipe.inputs, Recipe.new, newInputs, htag]
  rfl

/-- The candidates that match a new hash. -/
theorem hashCompare_new_iff (h : hashCreate salt secret = .ok hash) {candidate : String} :
    hashCompare hash candidate = true ↔ candidate.utf8ByteSize ≤ secretLimit ∧
      Argon2.tag (newInputs salt candidate) = Argon2.tag (newInputs salt secret) := by
  rw [(stores_of_hashCreate h).2.hashCompare_eq_true_iff,
    Recipe.inputs_new candidate (length_newTag salt secret)]
  rfl

/-- **A stored hash matches its own secret.** -/
theorem hashCompare_of_hashCreate (h : hashCreate salt secret = .ok hash) : hashCompare hash secret = true :=
  (hashCompare_new_iff h).2 ⟨(stores_of_hashCreate h).1, rfl⟩

/-- Within the limit, only the empty secret cannot be hashed. -/
theorem hashCreate_eq_error_iff (hle : secret.utf8ByteSize ≤ secretLimit) :
    (∃ e, hashCreate salt secret = .error e) ↔ secret = "" := by
  unfold hashCreate
  by_cases hempty : secret = ""
  · simp [hempty]
  · simp [hempty, Nat.not_lt.2 hle]

end NewHash

/-! ### What the services count on -/

/-- A secret that is neither empty nor too long can be hashed, and matches the hash that was made of it. -/
structure Hasher.Reliable (h : Hasher) : Prop where
  creates : ∀ salt secret, secret ≠ "" → secret.utf8ByteSize ≤ secretLimit →
    ∃ hash, h.create salt secret = .ok hash
  matching : ∀ salt secret hash, h.create salt secret = .ok hash → h.compare hash secret = true

/-- **Argon2 is reliable.** -/
theorem Hasher.argon2_reliable : Hasher.argon2.Reliable where
  creates := by
    intro salt secret hsome hle
    refine ⟨(newPhc salt (Argon2.tag (newInputs salt secret))).render, ?_⟩
    show hashCreate salt secret = _
    rw [hashCreate, if_neg hsome, if_neg (Nat.not_lt.2 hle)]
  matching := fun _ _ _ h => hashCompare_of_hashCreate h

/-- No character takes more than four bytes. -/
theorem utf8ByteSize_ofList_le (cs : List Char) : (String.ofList cs).utf8ByteSize ≤ 4 * cs.length := by
  induction cs with
  | nil => simp
  | cons c cs ih =>
    have hc := c.utf8Size_le_four
    rw [String.ofList_cons, String.utf8ByteSize_append, String.utf8ByteSize_singleton, List.length_cons]
    omega

/-- Of a text that is not empty and not too long a hash can be made. -/
theorem Hasher.Reliable.creates_ofList {h : Hasher} (reliable : h.Reliable) (salt : Salt) (cs : List Char)
    (hsome : 0 < cs.length) (hle : cs.length ≤ 64) :
    ∃ hash, h.create salt (String.ofList cs) = .ok hash := by
  refine reliable.creates salt _ ?_ ?_
  · intro hempty
    rw [← String.toList_inj, String.toList_ofList] at hempty
    simp [hempty] at hsome
  · have hsize := utf8ByteSize_ofList_le cs
    unfold secretLimit
    omega

/-- **A token can be issued**, whatever is drawn, and matches its hash. -/
theorem Hasher.Reliable.tokenCreate {h : Hasher} (reliable : h.Reliable) (draw : Draw) :
    ∃ issued, tokenCreate h draw = .ok issued ∧ h.compare issued.hash issued.token = true := by
  have hseed : (code false draw.seed.draws).length = 25 := by
    rw [code, List.length_map, draw.seed.length_eq]
    rfl
  obtain ⟨seedHash, hseedHash⟩ := reliable.creates_ofList draw.seedSalt (code false draw.seed.draws)
    (by omega) (by omega)
  have htoken : (Text.hex (Sha256.digest seedHash.toUTF8)).length = 64 := by
    rw [Text.hex_length, Sha256.digest_length]
  obtain ⟨hash, hhash⟩ := reliable.creates_ofList draw.tokenSalt
    (Text.hex (Sha256.digest seedHash.toUTF8)) (by omega) (by omega)
  refine ⟨⟨Sha256.hexDigest seedHash.toUTF8, hash⟩, ?_, reliable.matching _ _ _ hhash⟩
  show (do let seedHash ← h.create draw.seedSalt (String.ofList (code false draw.seed.draws)); _) = _
  rw [hseedHash]
  show (do
    let hash ← h.create draw.tokenSalt (String.ofList (Text.hex (Sha256.digest seedHash.toUTF8)))
    _) = _
  rw [hhash]
  rfl

/-! ### The whole -/

/-- The fields of a hash that was made with a salt: Argon2id, version 19, the default cost, the salt in
    base64, and the tag. -/
structure IsNew (p : Phc) (salt : Salt) (tag : List UInt8) : Prop where
  algorithm : p.algorithm = "argon2id".toList
  version : p.version = some 19
  params : p.params = [("m".toList, "19456".toList), ("t".toList, "2".toList), ("p".toList, "1".toList)]
  salt : p.salt.bind Text.Base64.decode = some salt.bytes
  digest : p.digest = some tag

/-- What holds of a hash that was made of a secret with a salt. -/
structure Made (salt : Salt) (secret hash : String) : Prop where
  /-- It is read as what was written. -/
  reads : ∃ p, Phc.parse hash = some p ∧ IsNew p salt (Argon2.tag (newInputs salt secret))
  /-- It matches its own secret, -/
  own : hashCompare hash secret = true
  /-- and any candidate that is not too long exactly if it has the same tag. -/
  others : ∀ candidate, hashCompare hash candidate = true ↔ candidate.utf8ByteSize ≤ secretLimit ∧
    Argon2.tag (newInputs salt candidate) = Argon2.tag (newInputs salt secret)

theorem made_of_hashCreate {salt : Salt} {secret hash : String} (h : hashCreate salt secret = .ok hash) :
    Made salt secret hash := by
  obtain ⟨-, stores⟩ := stores_of_hashCreate h
  refine ⟨⟨_, Phc.parse_eq_some_iff.2 ⟨stores.valid.wellFormed, stores.text⟩, ?_⟩,
    hashCompare_of_hashCreate h, fun _ => hashCompare_new_iff h⟩
  rw [Recipe.phc_new]
  refine ⟨rfl, rfl, ?_, Text.Base64.decode_encode _, rfl⟩
  show [(['m'], Phc.numberText defaultCost.memory), (['t'], Phc.numberText defaultCost.passes),
    (['p'], Phc.numberText defaultCost.lanes)] = _
  decide +kernel

/-- No candidate matches a text that stores no recipe. -/
theorem hashCompare_of_not_stores {hash : String} (malformed : ∀ r, ¬ Stores hash r) (candidate : String) :
    hashCompare hash candidate = false := by
  rw [← Bool.not_eq_true, hashCompare_eq_true_iff]
  rintro ⟨r, stores, -⟩
  exact malformed r stores

/-- **Hashes are exact.** Every secret but the empty one can be hashed, with any salt, as long as it is
    not too long, and its hash matches it, and nothing but what has the same tag. A candidate matches a
    text exactly if the text is the PHC form of a recipe and the computation of the recipe gives the tag,
    so none matches the empty text or any other that is not such a form. And a token is issued whatever is
    drawn, and matches its hash. -/
theorem hashes_exact :
    (∀ (salt : Salt) (secret : String), secret.utf8ByteSize ≤ secretLimit →
        ((∃ e, hashCreate salt secret = .error e) ↔ secret = "")) ∧
      (∀ (salt : Salt) (secret hash : String), hashCreate salt secret = .ok hash → Made salt secret hash) ∧
      (∀ hash candidate : String, hashCompare hash candidate = true ↔ ∃ r, Stores hash r ∧
        candidate.utf8ByteSize ≤ secretLimit ∧ Argon2.tag (r.inputs candidate) = r.tag) ∧
      (∀ hash candidate : String, (hash = "" ∨ ∀ r, ¬ Stores hash r) → hashCompare hash candidate = false) ∧
      ∀ draw : Draw, ∃ issued, tokenCreate .argon2 draw = .ok issued ∧
        hashCompare issued.hash issued.token = true := by
  refine ⟨fun salt secret => hashCreate_eq_error_iff, fun salt secret hash => made_of_hashCreate,
    fun hash candidate => hashCompare_eq_true_iff, ?_, Hasher.argon2_reliable.tokenCreate⟩
  rintro hash candidate (rfl | malformed)
  · -- nothing can be read of the empty text
    have hparse : Phc.parse "" = none := by decide +kernel
    rw [hashCompare, hparse]
    rfl
  · exact hashCompare_of_not_stores malformed candidate

/-- A secret and the salt of zeros, and a text that is no hash. -/
theorem hashes_exact_secret : ∃ hash, hashCreate ⟨List.replicate 16 0, rfl⟩ "secret" = .ok hash ∧
    hashCompare hash "secret" = true ∧
      hashCompare "$argon2id$v=19$m=19456$c2FsdHNhbHQ" "secret" = false := by
  obtain ⟨fails, made, -, malformed, -⟩ := hashes_exact
  have hnone : ∀ r, ¬ Stores "$argon2id$v=19$m=19456$c2FsdHNhbHQ" r := by
    -- the tag is missing
    have hparse : (Phc.parse "$argon2id$v=19$m=19456$c2FsdHNhbHQ").bind Phc.digest = none := by
      decide +kernel
    intro r stores
    rw [Phc.parse_eq_some_iff.2 ⟨stores.valid.wellFormed, stores.text⟩] at hparse
    cases hparse
  cases h : hashCreate ⟨List.replicate 16 0, rfl⟩ "secret" with
  | error e => exact absurd ((fails _ _ (by decide)).1 ⟨e, h⟩) (by decide)
  | ok hash => exact ⟨hash, rfl, (made _ _ _ h).own, malformed _ _ (.inr hnone)⟩

end Credential

end Turnstile
