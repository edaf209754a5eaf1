import Mathlib.Data.String.Basic
import Turnstile.Credential.Hash
import Turnstile.Proofs.Credential.PhcGrammar

namespace Turnstile.Credential

open Digest

/-!
# What a stored hash stands for

A stored hash is the PHC form of a recipe: which computation was made, and the tag that came of it.

* `Setting` is a parameter that Argon2 knows, and `Recipe` all that a stored hash says.
* `Stores` holds of a text and the valid recipe that it is the PHC form of.
* `recomputation?_phc` and `exists_recipe` say that what a PHC string asks for is the computation of a valid
  recipe, and `hashCompare_eq_true_iff` that a candidate matches exactly if the computation of the recipe
  gives the tag.
-/

/-! ### Parameters -/

/-- A parameter that Argon2 knows. -/
inductive Setting where
  | memory (n : Nat)
  | passes (n : Nat)
  | lanes (n : Nat)
  | keyId (bytes : List UInt8)
  | data (bytes : List UInt8)

namespace Setting

/-- The name of a parameter and its value. -/
def param : Setting → List Char × List Char
  | memory n => ("m".toList, Phc.numberText n)
  | passes n => ("t".toList, Phc.numberText n)
  | lanes n => ("p".toList, Phc.numberText n)
  | keyId bytes => ("keyid".toList, Text.Base64.encode bytes)
  | data bytes => ("data".toList, Text.Base64.encode bytes)

/-- A number has 32 bits at most, the name of a key eight bytes, and data 32 bytes. -/
def Fits : Setting → Prop
  | memory n | passes n | lanes n => n ≤ Phc.numberLimit
  | keyId bytes => bytes.length ≤ 8
  | data bytes => bytes.length ≤ 32

/-- What a parameter changes: it replaces an earlier value, and the name of a key is for the caller alone. -/
def apply (d : Demand) : Setting → Demand
  | memory n => { d with cost.memory := n }
  | passes n => { d with cost.passes := n }
  | lanes n => { d with cost.lanes := n }
  | keyId _ => d
  | data bytes => { d with data := bytes }

end Setting

section Values

variable {α : Type} {a : α} {value : List Char}

/-- What a number is taken for. -/
theorem map_number?_eq_some_iff {f : Nat → α} :
    (Phc.number? value).map f = some a ↔ ∃ n, n ≤ Phc.numberLimit ∧ value = Phc.numberText n ∧ f n = a := by
  rw [Option.map_eq_some_iff]
  refine exists_congr fun n => ?_
  rw [Phc.number?_eq_some_iff, and_assoc, and_left_comm]

/-- What bytes are taken for. -/
theorem map_bytesUpTo_eq_some_iff {limit : Nat} {f : List UInt8 → α} :
    (bytesUpTo limit value).map f = some a ↔
    ∃ bytes, bytes.length ≤ limit ∧ value = Text.Base64.encode bytes ∧ f bytes = a := by
  rw [Option.map_eq_some_iff]
  refine exists_congr fun bytes => ?_
  rw [bytesUpTo, Option.filter_eq_some_iff, Text.Base64.decode_eq_some_iff, decide_eq_true_eq, and_assoc,
    and_left_comm]

end Values

/-- **One parameter** is taken into account if it is one that Argon2 knows. -/
theorem Demand.param_eq_some_iff {d d' : Demand} {x : List Char × List Char} :
    d.param x = some d' ↔ ∃ s : Setting, s.Fits ∧ x = s.param ∧ s.apply d = d' := by
  obtain ⟨name, value⟩ := x
  constructor
  · intro h
    unfold Demand.param at h
    split at h
    · next heq =>
      obtain ⟨n, hle, rfl, hd⟩ := map_number?_eq_some_iff.1 h
      exact ⟨.memory n, hle, Prod.ext (String.ofList_eq.1 heq) rfl, hd⟩
    · next heq =>
      obtain ⟨n, hle, rfl, hd⟩ := map_number?_eq_some_iff.1 h
      exact ⟨.passes n, hle, Prod.ext (String.ofList_eq.1 heq) rfl, hd⟩
    · next heq =>
      obtain ⟨n, hle, rfl, hd⟩ := map_number?_eq_some_iff.1 h
      exact ⟨.lanes n, hle, Prod.ext (String.ofList_eq.1 heq) rfl, hd⟩
    · next heq =>
      obtain ⟨bytes, hle, rfl, hd⟩ := map_bytesUpTo_eq_some_iff.1 h
      exact ⟨.keyId bytes, hle, Prod.ext (String.ofList_eq.1 heq) rfl, hd⟩
    · next heq =>
      obtain ⟨bytes, hle, rfl, hd⟩ := map_bytesUpTo_eq_some_iff.1 h
      exact ⟨.data bytes, hle, Prod.ext (String.ofList_eq.1 heq) rfl, hd⟩
    · cases h
  · rintro ⟨s, hfits, heq, hd⟩
    obtain ⟨rfl, rfl⟩ := Prod.mk.inj heq
    cases s with
    | memory n => exact map_number?_eq_some_iff.2 ⟨n, hfits, rfl, hd⟩
    | passes n => exact map_number?_eq_some_iff.2 ⟨n, hfits, rfl, hd⟩
    | lanes n => exact map_number?_eq_some_iff.2 ⟨n, hfits, rfl, hd⟩
    | keyId bytes => exact map_bytesUpTo_eq_some_iff.2 ⟨bytes, hfits, rfl, hd⟩
    | data bytes => exact map_bytesUpTo_eq_some_iff.2 ⟨bytes, hfits, rfl, hd⟩

/-- The cost that the parameters ask for can be met: at least one pass, and at least one lane with eight
    blocks in each. -/
structure Affordable (c : Argon2.Cost) : Prop where
  memory : 8 ≤ c.memory
  blocks : 8 * c.lanes ≤ c.memory
  passes : 1 ≤ c.passes
  lanes : 1 ≤ c.lanes ∧ c.lanes ≤ 16777215

theorem validCost_iff {c : Argon2.Cost} : validCost c = true ↔ Affordable c := by
  simp only [validCost, Bool.and_eq_true, decide_eq_true_eq]
  constructor
  · rintro ⟨⟨⟨⟨hmemory, hpasses⟩, hlanes⟩, hmost⟩, hblocks⟩
    exact ⟨hmemory, hblocks, hpasses, hlanes, hmost⟩
  · rintro ⟨hmemory, hblocks, hpasses, hlanes, hmost⟩
    exact ⟨⟨⟨⟨hmemory, hpasses⟩, hlanes⟩, hmost⟩, hblocks⟩

/-- What parameters ask for in their order, beginning from the default. -/
def settled (settings : List Setting) : Demand := settings.foldl Setting.apply ⟨defaultCost, []⟩

/-- **All parameters** are taken into account if Argon2 knows each of them and the cost can be met. -/
theorem Demand.ofParams_eq_some_iff {ps : List (List Char × List Char)} {d : Demand} :
    Demand.ofParams ps = some d ↔ ∃ settings : List Setting, (∀ s ∈ settings, s.Fits) ∧
      ps = settings.map Setting.param ∧ d = settled settings ∧ Affordable d.cost := by
  have hfold : ∀ (ps : List (List Char × List Char)) (d d' : Demand), ps.foldlM Demand.param d = some d' ↔
      ∃ settings : List Setting, (∀ s ∈ settings, s.Fits) ∧ ps = settings.map Setting.param ∧
        d' = settings.foldl Setting.apply d := by
    intro ps
    induction ps with
    | nil =>
      intro d d'
      rw [List.foldlM_nil]
      constructor
      · rintro ⟨⟩
        exact ⟨[], (fun _ h => nomatch h), rfl, rfl⟩
      · rintro ⟨settings, -, hps, rfl⟩
        rw [List.map_eq_nil_iff.1 hps.symm]
        rfl
    | cons x ps ih =>
      intro d d'
      rw [List.foldlM_cons, Option.bind_eq_bind, Option.bind_eq_some_iff]
      simp only [Demand.param_eq_some_iff, ih]
      constructor
      · rintro ⟨_, ⟨s, hs, rfl, rfl⟩, settings, hsettings, rfl, rfl⟩
        exact ⟨s :: settings, List.forall_mem_cons.2 ⟨hs, hsettings⟩, rfl, rfl⟩
      · rintro ⟨settings, hsettings, hps, rfl⟩
        obtain ⟨s, settings, rfl, rfl, rfl⟩ := List.map_eq_cons_iff.1 hps.symm
        obtain ⟨hs, hsettings⟩ := List.forall_mem_cons.1 hsettings
        exact ⟨_, ⟨s, hs, rfl, rfl⟩, settings, hsettings, rfl, rfl⟩
  rw [Demand.ofParams, Option.filter_eq_some_iff, hfold, validCost_iff]
  constructor
  · rintro ⟨⟨settings, hfits, rfl, rfl⟩, hcost⟩
    exact ⟨settings, hfits, rfl, rfl, hcost⟩
  · rintro ⟨settings, hfits, rfl, rfl, hcost⟩
    exact ⟨⟨settings, hfits, rfl, rfl⟩, hcost⟩

/-! ### Variants and versions -/

theorem variant?_eq_some_iff {name : List Char} {v : Argon2.Variant} :
    variant? name = some v ↔ name = (variantName v).toList := by
  constructor
  · intro h
    unfold variant? at h
    split at h
    · next heq => cases h; exact String.ofList_eq.1 heq
    · next heq => cases h; exact String.ofList_eq.1 heq
    · next heq => cases h; exact String.ofList_eq.1 heq
    · cases h
  · rintro rfl
    cases v <;> decide +kernel

/-- The version is written as its number, or not at all, which stands for the newest. -/
theorem version?_eq_some_iff {n : Option Nat} {v : Argon2.Version} :
    version? n = some v ↔ ∃ written : Option Argon2.Version,
      n = written.map Argon2.Version.number ∧ v = written.getD .v19 := by
  constructor
  · intro h
    unfold version? at h
    split at h
    · cases h; exact ⟨none, rfl, rfl⟩
    · cases h; exact ⟨some .v16, rfl, rfl⟩
    · cases h; exact ⟨some .v19, rfl, rfl⟩
    · cases h
  · rintro ⟨_ | v, rfl, rfl⟩
    · rfl
    · cases v <;> rfl

/-! ### Recipes -/

/-- What a stored hash says. -/
structure Recipe where
  variant : Argon2.Variant
  version : Option Argon2.Version
  settings : List Setting
  salt : List UInt8
  tag : List UInt8

namespace Recipe

/-- The fields of the PHC form. -/
def phc (r : Recipe) : Phc where
  algorithm := (variantName r.variant).toList
  version := r.version.map Argon2.Version.number
  params := r.settings.map Setting.param
  salt := some (Text.Base64.encode r.salt)
  digest := some r.tag

/-- The computation, with a candidate for the secret. Its length is that of the tag. -/
def inputs (r : Recipe) (candidate : String) : Argon2.Inputs where
  variant := r.variant
  version := r.version.getD .v19
  cost := (settled r.settings).cost
  length := r.tag.length
  secret := secretBytes candidate
  salt := r.salt
  data := (settled r.settings).data

/-- The recipe can be followed: its parameters are within their bounds, the cost can be met, the salt has
    eight bytes or more, and the PHC form is well-formed. -/
structure Valid (r : Recipe) : Prop where
  fits : ∀ s ∈ r.settings, s.Fits
  affordable : Affordable (settled r.settings).cost
  salt : 8 ≤ r.salt.length
  wellFormed : r.phc.WellFormed

end Recipe

/-- The text is the PHC form of a recipe that can be followed. -/
structure Stores (hash : String) (r : Recipe) : Prop where
  text : hash = r.phc.render
  valid : r.Valid

theorem secretBytes_length (s : String) : (secretBytes s).length = s.utf8ByteSize := by
  have hloop (b : ByteArray) (i : Nat) (r : List UInt8) :
      (ByteArray.toList.loop b i r).length = r.length + (b.size - i) := by
    induction i, r using ByteArray.toList.loop.induct b with
    | case1 i r hi ih =>
      rw [ByteArray.toList.loop, if_pos hi, ih, List.length_cons]
      omega
    | case2 i r hi =>
      rw [ByteArray.toList.loop, if_neg hi, List.length_reverse]
      omega
  exact (hloop s.toUTF8 0 []).trans (Nat.zero_add _)

/-- **What a recipe asks for** is its computation, unless the candidate is too long. -/
theorem recomputation?_phc {r : Recipe} (valid : r.Valid) (candidate : String) :
    recomputation? r.phc (secretBytes candidate)
      = if candidate.utf8ByteSize ≤ secretLimit then some (r.inputs candidate, r.tag) else none := by
  have hvariant : variant? r.phc.algorithm = some r.variant := variant?_eq_some_iff.2 rfl
  have hversion : version? r.phc.version = some (r.version.getD .v19) :=
    version?_eq_some_iff.2 ⟨r.version, rfl, rfl⟩
  have hdemand : Demand.ofParams r.phc.params = some (settled r.settings) :=
    Demand.ofParams_eq_some_iff.2 ⟨r.settings, valid.fits, rfl, rfl, valid.affordable⟩
  have hsalt : r.phc.salt = some (Text.Base64.encode r.salt) := rfl
  have hdigest : r.phc.digest = some r.tag := rfl
  simp only [recomputation?, hsalt, hdigest, hvariant, hversion, hdemand, Text.Base64.decode_encode,
    Option.bind_eq_bind, Option.bind_some, valid.salt, true_and, secretBytes_length]
  rfl

/-- **What is asked for** is always the computation of a valid recipe. -/
theorem exists_recipe {p : Phc} (wellFormed : p.WellFormed) {candidate : List UInt8}
    {computation : Argon2.Inputs × List UInt8} (h : recomputation? p candidate = some computation) :
    ∃ r : Recipe, p = r.phc ∧ r.Valid := by
  simp only [recomputation?, Option.bind_eq_bind, Option.bind_eq_some_iff] at h
  obtain ⟨text, htext, tag, htag, variant, hvariant, version, hversion, demand, hdemand, salt, hsalt, h⟩ := h
  split at h
  · next hlengths =>
    obtain ⟨settings, hfits, hparams, rfl, hcost⟩ := Demand.ofParams_eq_some_iff.1 hdemand
    obtain ⟨written, hwritten, rfl⟩ := version?_eq_some_iff.1 hversion
    have hp : p = Recipe.phc ⟨variant, written, settings, salt, tag⟩ := by
      rw [Text.Base64.decode_eq_some_iff] at hsalt
      obtain ⟨algorithm, number, params, saltText, digest⟩ := p
      simp only [Recipe.phc, Phc.mk.injEq]
      exact ⟨variant?_eq_some_iff.1 hvariant, hwritten, hparams, hsalt ▸ htext, htag⟩
    exact ⟨_, hp, hfits, hcost, hlengths.1, hp ▸ wellFormed⟩
  · cases h

/-- A candidate matches the hash that stores a recipe exactly if the computation gives the tag. -/
theorem Stores.hashCompare_eq_true_iff {hash : String} {r : Recipe} (stores : Stores hash r)
    {candidate : String} : hashCompare hash candidate = true ↔
      candidate.utf8ByteSize ≤ secretLimit ∧ Argon2.tag (r.inputs candidate) = r.tag := by
  rw [hashCompare, Phc.parse_eq_some_iff.2 ⟨stores.valid.wellFormed, stores.text⟩, Option.bind_some,
    recomputation?_phc stores.valid]
  by_cases hle : candidate.utf8ByteSize ≤ secretLimit
  · simp [hle]
  · simp [hle]

/-- **A candidate matches** exactly if the hash stores a recipe whose computation gives the tag. -/
theorem hashCompare_eq_true_iff {hash candidate : String} : hashCompare hash candidate = true ↔
    ∃ r, Stores hash r ∧ candidate.utf8ByteSize ≤ secretLimit ∧ Argon2.tag (r.inputs candidate) = r.tag := by
  constructor
  · intro h
    have hstores : ∃ r, Stores hash r := by
      rw [hashCompare] at h
      split at h
      · next inputs tag heq =>
        obtain ⟨p, hparse, hasks⟩ := Option.bind_eq_some_iff.1 heq
        obtain ⟨wellFormed, htext⟩ := Phc.parse_eq_some_iff.1 hparse
        obtain ⟨r, rfl, valid⟩ := exists_recipe wellFormed hasks
        exact ⟨r, htext, valid⟩
      · cases h
    obtain ⟨r, stores⟩ := hstores
    exact ⟨r, stores, stores.hashCompare_eq_true_iff.1 h⟩
  · rintro ⟨r, stores, h⟩
    exact stores.hashCompare_eq_true_iff.2 h

end Turnstile.Credential
