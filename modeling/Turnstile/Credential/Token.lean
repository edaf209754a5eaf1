import Turnstile.Credential.Hash
import Turnstile.Digest.Sha256
import Turnstile.Text.Inspect
import Turnstile.Text.Number
import Turnstile.Text.Split

namespace Turnstile.Credential

/-!
# Session tokens

A token is the SHA-256 digest, in hexadecimal, of the salted hash of a random code. The caller gets it
once; only its own salted hash is kept, and neither the code nor the token can be had from that.

* `code` spells random letters of an alphabet without `O`.
* `tokenCreate` makes a token and its hash from a code and two salts.
* `authorizationText` and `parseAuthorization` write and read the credential `<session id>-<token>`
  that callers present.
-/

/-! ### Codes -/

/-- The capital letters without `O`, which looks like a zero. -/
def letters : List Char := "ABCDEFGHIJKLMNPQRSTUVWXYZ".toList

/-- The digits without zero. -/
def digits : List Char := "123456789".toList

/-- The characters of codes. -/
def alphabet (withDigits : Bool) : List Char := if withDigits then letters ++ digits else letters

/-- The characters at the drawn positions, which wrap around the end of the alphabet. -/
def code (withDigits : Bool) (draws : List Nat) : List Char :=
  let chars := alphabet withDigits
  draws.map fun n => chars.getD (n % chars.length) 'A'

/-- The length of the code that a token is made from. -/
def seedLength : Nat := 25

/-- The drawn positions of the letters of a seed. -/
structure Seed where
  draws : List Nat
  length_eq : draws.length = seedLength

/-- The text of a seed. -/
def Seed.text (s : Seed) : String := String.ofList (code false s.draws)

/-! ### Tokens -/

/-- A token for the caller and its hash for the store. -/
structure IssuedToken where
  token : String
  hash : String
  deriving DecidableEq, Repr

/-- What operators may see of an issued token. -/
def IssuedToken.shape (t : IssuedToken) : Text.Shape :=
  .record "IssuedToken" [("token", .text "<redacted>"), ("token_hash", .text t.hash)] true

/-- What is drawn at random to issue a token. -/
structure Draw where
  seed : Seed
  seedSalt : Salt
  tokenSalt : Salt

/-- Issue a token. -/
def tokenCreate (h : Hasher) (d : Draw) : Except CredentialError IssuedToken := do
  let seedHash ← h.create d.seedSalt d.seed.text
  let token := Digest.Sha256.hexDigest seedHash.toUTF8
  let hash ← h.create d.tokenSalt token
  return { token, hash }

/-! ### Credentials that callers present -/

/-- The largest key of a row. -/
def idLimit : Nat := 9223372036854775807

/-- The credential for a session and its token. -/
def authorizationText (id : Int) (token : String) : String := toString id ++ "-" ++ token

/-- Split a credential at its only hyphen into the session's key and the token. -/
def parseAuthorization (text : String) : Option (Int × String) :=
  match Text.splitOn '-' text.toList with
  | [id, token] =>
    match Text.readNumber idLimit id with
    | .ok n => some (n, String.ofList token)
    | .error _ => none
  | _ => none

end Turnstile.Credential
