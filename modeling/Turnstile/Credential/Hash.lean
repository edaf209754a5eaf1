import Turnstile.Credential.Phc
import Turnstile.Digest.Argon2

namespace Turnstile.Credential

open Digest

/-!
# Hashes of secrets

Passwords and session tokens are kept as Argon2 hashes in PHC form.

* `hashCreate` hashes a secret with a fresh salt and the default cost.
* `hashCompare` recomputes the tag that a stored hash names and compares. A hash that is not a
  well-formed Argon2 hash matches nothing.
* `Hasher` is the pair of them as the services see it, so that what the services do can be told apart
  from what Argon2 computes; `Hasher.argon2` is the one in use.
-/

/-! ### Failures -/

/-- Why the hash function refused. -/
inductive HashFault where
  | password
  | crypto
  | algorithm
  deriving DecidableEq, Repr

/-- The wording of a refusal. -/
def HashFault.message : HashFault → String
  | .password => "invalid password"
  | .crypto => "cryptographic error"
  | .algorithm => "unsupported algorithm"

/-- Why no hash was made. -/
inductive CredentialError where
  | missingSecret
  | hash (fault : HashFault)
  deriving DecidableEq, Repr

/-- The wording of a failure. -/
def CredentialError.message : CredentialError → String
  | .missingSecret => "hash create error: secret is required to create a hash"
  | .hash fault => "hash create error: argon2 error: " ++ fault.message

/-! ### What a PHC string asks for -/

/-- The cost and data named by the parameters of a PHC string. -/
structure Demand where
  cost : Argon2.Cost
  data : List UInt8
  deriving DecidableEq, Repr

/-- The cost where a parameter is absent, and the cost of new hashes. -/
def defaultCost : Argon2.Cost := ⟨19456, 2, 1⟩

/-- The length of the tag of new hashes. -/
def defaultLength : Nat := 32

/-- Base64 text of at most `limit` bytes. -/
def bytesUpTo (limit : Nat) (cs : List Char) : Option (List UInt8) :=
  (Text.Base64.decode cs).filter (·.length ≤ limit)

/-- Take one parameter into account; a repeated one replaces the earlier. The key's name does not
    change the tag. -/
def Demand.param (d : Demand) (p : List Char × List Char) : Option Demand :=
  match String.ofList p.1 with
  | "m" => (Phc.number? p.2).map fun n => { d with cost.memory := n }
  | "t" => (Phc.number? p.2).map fun n => { d with cost.passes := n }
  | "p" => (Phc.number? p.2).map fun n => { d with cost.lanes := n }
  | "keyid" => (bytesUpTo 8 p.2).map fun _ => d
  | "data" => (bytesUpTo 32 p.2).map fun bytes => { d with data := bytes }
  | _ => none

/-- Each lane has at least eight blocks; there is at least one lane and one pass. -/
def validCost (c : Argon2.Cost) : Bool :=
  8 ≤ c.memory && 1 ≤ c.passes && 1 ≤ c.lanes && c.lanes ≤ 16777215 && 8 * c.lanes ≤ c.memory

/-- What the parameters ask for. -/
def Demand.ofParams (ps : List (List Char × List Char)) : Option Demand :=
  (ps.foldlM Demand.param ⟨defaultCost, []⟩).filter fun d => validCost d.cost

/-- The variant of an algorithm name. -/
def variant? (name : List Char) : Option Argon2.Variant :=
  match String.ofList name with
  | "argon2d" => some .d
  | "argon2i" => some .i
  | "argon2id" => some .id
  | _ => none

/-- The version of a version number; an absent one means the newest. -/
def version? : Option Nat → Option Argon2.Version
  | none => some .v19
  | some 16 => some .v16
  | some 19 => some .v19
  | some _ => none

/-- The name of a variant. -/
def variantName : Argon2.Variant → String
  | .d => "argon2d"
  | .i => "argon2i"
  | .id => "argon2id"

/-- The longest secret, in bytes. -/
def secretLimit : Nat := 4294967295

/-- The computation that a stored hash names for a candidate, and the tag it should give. -/
def recomputation? (p : Phc) (candidate : List UInt8) : Option (Argon2.Inputs × List UInt8) := do
  let salt ← p.salt
  let tag ← p.digest
  let variant ← variant? p.algorithm
  let version ← version? p.version
  let demand ← Demand.ofParams p.params
  let salt ← Text.Base64.decode salt
  if 8 ≤ salt.length ∧ candidate.length ≤ secretLimit then
    return ({ variant, version, cost := demand.cost, length := tag.length,
              secret := candidate, salt, data := demand.data }, tag)
  else none

/-! ### Creating and comparing -/

/-- Sixteen random bytes. -/
structure Salt where
  bytes : List UInt8
  length_eq : bytes.length = 16

/-- The bytes of a text. -/
def secretBytes (s : String) : List UInt8 := s.toUTF8.toList

/-- What a new hash is computed from. -/
def newInputs (salt : Salt) (secret : String) : Argon2.Inputs where
  variant := .id
  version := .v19
  cost := defaultCost
  length := defaultLength
  secret := secretBytes secret
  salt := salt.bytes
  data := []

/-- The PHC form of a new hash. -/
def newPhc (salt : Salt) (tag : List UInt8) : Phc where
  algorithm := (variantName .id).toList
  version := some Argon2.Version.v19.number
  params := [(['m'], Phc.numberText defaultCost.memory), (['t'], Phc.numberText defaultCost.passes),
    (['p'], Phc.numberText defaultCost.lanes)]
  salt := some (Text.Base64.encode salt.bytes)
  digest := some tag

/-- Hash a secret with a fresh salt. -/
def hashCreate (salt : Salt) (secret : String) : Except CredentialError String :=
  if secret = "" then .error .missingSecret
  else if secretLimit < secret.utf8ByteSize then .error (.hash .password)
  else .ok (newPhc salt (Argon2.tag (newInputs salt secret))).render

/-- Whether the candidate is the secret that the stored hash was made from. -/
def hashCompare (hash candidate : String) : Bool :=
  match (Phc.parse hash).bind (recomputation? · (secretBytes candidate)) with
  | some (inputs, tag) => Argon2.tag inputs == tag
  | none => false

/-! ### What the services use -/

/-- A way to hash secrets and to compare candidates with hashes. -/
structure Hasher where
  create : Salt → String → Except CredentialError String
  compare : String → String → Bool

/-- Argon2 with the default cost. -/
def Hasher.argon2 : Hasher := ⟨hashCreate, hashCompare⟩

end Turnstile.Credential
