import Turnstile.Text.Base64
import Turnstile.Text.Split

namespace Turnstile.Credential

/-!
# PHC strings

The text form of a password hash: `$`, then an algorithm name, a version, parameters, a salt and a
digest, separated by `$`. Every field after the name may be absent.

* `Phc.render` writes the text.
* `Phc.parse` reads it.

A field is the version only if it starts with `v=` and holds no comma, and the parameters only if it
holds `=`; the next two fields are salt and digest, and nothing may follow.
-/

/-- The fields of a PHC string, the digest decoded. -/
structure Phc where
  algorithm : List Char
  version : Option Nat
  params : List (List Char × List Char)
  salt : Option (List Char)
  digest : Option (List UInt8)
  deriving DecidableEq, Repr

namespace Phc

open Text (splitOn joinWith)

/-! ### Fields -/

/-- Characters of algorithm and parameter names. -/
def isNameChar (c : Char) : Bool := c.isLower || c.isDigit || c == '-'

/-- Characters of parameter values and salts. -/
def isValueChar (c : Char) : Bool :=
  c.isAlphanum || c == '/' || c == '+' || c == '.' || c == '-'

/-- A name has 1 to 32 characters. -/
def isName (cs : List Char) : Bool := cs != [] && cs.length ≤ 32 && cs.all isNameChar

/-- A value has at most 64 characters. -/
def isValue (cs : List Char) : Bool := cs.length ≤ 64 && cs.all isValueChar

/-- A salt is a value of at least four characters. -/
def isSalt (cs : List Char) : Bool := isValue cs && 4 ≤ cs.length

/-- The largest number in a PHC string. -/
def numberLimit : Nat := 4294967295

/-- The value of a sequence of digits. -/
def digitsValue (cs : List Char) : Nat := cs.foldl (fun n c => 10 * n + (c.toNat - 48)) 0

/-- A number is written without sign and without leading zeros. -/
def number? (cs : List Char) : Option Nat :=
  if cs != [] && cs.all Char.isDigit && (cs.length = 1 || cs.head? != some '0')
      && digitsValue cs ≤ numberLimit then
    some (digitsValue cs)
  else none

/-- The digits of a number. -/
def numberText (n : Nat) : List Char := Nat.toDigits 10 n

/-- One parameter, `name=value`. -/
def param? (cs : List Char) : Option (List Char × List Char) :=
  match splitOn '=' cs with
  | [name, value] => if isName name && isValue value then some (name, value) else none
  | _ => none

/-- The parameters, at most 127 bytes of them. -/
def params? (cs : List Char) : Option (List (List Char × List Char)) :=
  if (String.ofList cs).utf8ByteSize ≤ 127 then (splitOn ',' cs).mapM param? else none

/-- A digest has 10 to 64 bytes. -/
def digest? (cs : List Char) : Option (List UInt8) :=
  (Text.Base64.decode cs).filter fun bytes => 10 ≤ bytes.length && bytes.length ≤ 64

/-! ### Reading -/

/-- Take the version off the front of the fields, if it is there. -/
def takeVersion : List (List Char) → Option (Option Nat × List (List Char))
  | ('v' :: '=' :: cs) :: rest =>
    if ',' ∈ cs then some (none, ('v' :: '=' :: cs) :: rest)
    else (number? cs).map fun n => (some n, rest)
  | fields => some (none, fields)

/-- Take the parameters off the front of the fields, if they are there. -/
def takeParams : List (List Char) → Option (List (List Char × List Char) × List (List Char))
  | cs :: rest =>
    if '=' ∈ cs then (params? cs).map fun ps => (ps, rest) else some ([], cs :: rest)
  | [] => some ([], [])

/-- Salt and digest, with nothing behind them. -/
def takeSalt : List (List Char) → Option (Option (List Char) × Option (List UInt8))
  | [] => some (none, none)
  | [salt] => if isSalt salt then some (some salt, none) else none
  | [salt, digest] =>
    if isSalt salt then (digest? digest).map fun bytes => (some salt, some bytes) else none
  | _ => none

/-- Read a PHC string. -/
def parseChars (cs : List Char) : Option Phc :=
  match splitOn '$' cs with
  | [] :: algorithm :: fields =>
    if isName algorithm then do
      let (version, fields) ← takeVersion fields
      let (params, fields) ← takeParams fields
      let (salt, digest) ← takeSalt fields
      return { algorithm, version, params, salt, digest }
    else none
  | _ => none

/-- Read a PHC string. -/
def parse (s : String) : Option Phc := parseChars s.toList

/-! ### Writing -/

/-- One parameter. -/
def paramText (p : List Char × List Char) : List Char := p.1 ++ '=' :: p.2

/-- The fields that are present, in order. -/
def fields (p : Phc) : List (List Char) :=
  [p.algorithm]
    ++ (match p.version with | none => [] | some n => ['v' :: '=' :: numberText n])
    ++ (if p.params.isEmpty then [] else [joinWith ',' (p.params.map paramText)])
    ++ (match p.salt with | none => [] | some salt => [salt])
    ++ (match p.digest with | none => [] | some bytes => [Text.Base64.encode bytes])

/-- Write a PHC string. -/
def render (p : Phc) : String := String.ofList (p.fields.flatMap ('$' :: ·))

end Phc

end Turnstile.Credential
