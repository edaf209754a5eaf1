import Turnstile.Domain
import Turnstile.IpAddress
import Turnstile.Text.Percent
import Turnstile.Text.Utf8

namespace Turnstile

/-!
# Addresses of services

Reading an absolute URL as the URL Standard has it. The parts are kept as they are written; only what does
not count is dropped: blanks at the ends, line breaks and tabs, and steps back in a path.

* `Url.parse` reads a URL.
* `UrlFault.message` words why a text is not one.
-/

/-- Why a text is not a URL. -/
inductive UrlFault where
  | relative
  | emptyHost
  | port
  | ipv4
  | ipv6
  | hostCharacter
  | domainName
  deriving DecidableEq, Repr

/-- The wording of a fault. -/
def UrlFault.message : UrlFault → String
  | relative => "relative URL without a base"
  | emptyHost => "empty host"
  | port => "invalid port number"
  | ipv4 => "invalid IPv4 address"
  | ipv6 => "invalid IPv6 address"
  | hostCharacter => "invalid domain character"
  | domainName => "invalid international domain name"

/-- The parts of a URL, percent-encoded as they are written. -/
structure Url where
  scheme : String
  username : String
  password : Option String
  host : Option String
  port : Option Nat
  path : String
  query : Option String
  deriving DecidableEq, Repr

namespace Url

/-! ### Schemes -/

/-- What the scheme says about the rest: only some schemes always have a host on the network. -/
inductive Kind where
  | network
  | file
  | other
  deriving DecidableEq, Repr

/-- The kind of a scheme. -/
def kindOf (scheme : String) : Kind :=
  if ["http", "https", "ws", "wss", "ftp"].contains scheme then .network
  else if scheme = "file" then .file
  else .other

/-- Whether a character sets off the parts of a path. -/
def Kind.isSlash (k : Kind) (c : Char) : Bool := c == '/' || (c == '\\' && k != .other)

/-- Whether a character ends the part that names user, host and port. -/
def Kind.endsAuthority (k : Kind) (c : Char) : Bool := k.isSlash c || c == '?' || c == '#'

/-- Whether a character may stand in a scheme behind the first letter. -/
def isSchemeChar (c : Char) : Bool := c.isAlphanum || c == '+' || c == '-' || c == '.'

/-- The scheme and what follows its colon. -/
def splitScheme? (cs : List Char) : Option (String × List Char) :=
  match cs.head?, cs.dropWhile isSchemeChar with
  | some c, ':' :: rest =>
    if c.isAlpha then some (String.ofList ((cs.takeWhile isSchemeChar).map Char.toLower), rest) else none
  | _, _ => none

/-! ### Users -/

/-- The parts of a text before and behind the last `@`. -/
def splitUser? (cs : List Char) : Option (List Char × List Char) :=
  match (cs.reverse.takeWhile (· ≠ '@')).reverse, (cs.reverse.dropWhile (· ≠ '@')).reverse with
  | _, [] => none
  | behind, before => some (before.dropLast, behind)

/-- The name and the password before the host. A password that is empty counts as none. -/
def userOf (cs : List Char) : String × Option String :=
  let name := String.ofList (cs.takeWhile (· ≠ ':'))
  match cs.dropWhile (· ≠ ':') with
  | _ :: c :: password => (name, some (String.ofList (c :: password)))
  | _ => (name, none)

/-! ### Hosts -/

/-- The characters up to the colon before a port; colons between brackets do not count. -/
def hostLength (inBrackets : Bool) : List Char → Nat
  | [] => 0
  | c :: cs =>
    if c = ':' ∧ !inBrackets then 0
    else hostLength (if c = '[' then true else if c = ']' then false else inBrackets) cs + 1

/-- The characters that no host holds. -/
def isForbidden (c : Char) : Bool :=
  ['\x00', '\t', '\n', '\r', ' ', '#', '/', ':', '<', '>', '?', '@', '[', '\\', ']', '^', '|'].contains c

/-- The characters that no domain name holds. -/
def isForbiddenInDomain (c : Char) : Bool :=
  isForbidden c || c.toNat < 0x20 || c == '%' || c == '\x7F'

/-- An address of version 6 between brackets. -/
def bracketed (cs : List Char) : Except UrlFault Unit :=
  if cs.getLast? = some ']' ∧ IpAddress.isV6 (cs.drop 1).dropLast then .ok () else .error .ipv6

/-- One number of an address of version 4: decimal, octal behind `0` or hexadecimal behind `0x`. -/
def ipv4Number? (cs : List Char) : Option Nat :=
  let read (base : Nat) (p : Char → Bool) (ds : List Char) : Option Nat :=
    if ds.all p then
      some (ds.foldl (fun n c => n * base + ((Text.hexValue? c.toUInt8).getD 0)) 0)
    else none
  match cs with
  | [] => none
  | '0' :: 'x' :: ds | '0' :: 'X' :: ds => read 16 IpAddress.isHex ds
  | '0' :: d :: ds => read 8 (fun c => '0' ≤ c && c ≤ '7') (d :: ds)
  | ds => read 10 Char.isDigit ds

/-- The fields between points; an empty last one does not count. -/
def pointFields (cs : List Char) : List (List Char) :=
  let fields := Text.splitOn '.' cs
  if 1 < fields.length ∧ fields.getLast? = some [] then fields.dropLast else fields

/-- Whether a domain name ends in a number and so must be an address of version 4. -/
def endsInNumber (cs : List Char) : Bool :=
  match (pointFields cs).getLast? with
  | some last => (last != [] && last.all Char.isDigit) || (ipv4Number? last).isSome
  | none => false

/-- An address of version 4. Each number but the last is a byte; the last fills the bytes that are left. -/
def isIpv4 (cs : List Char) : Bool :=
  match (pointFields cs).mapM ipv4Number? with
  | some numbers =>
    numbers.length ≤ 4 && numbers.dropLast.all (· ≤ 255)
      && numbers.getLast?.getD 0 < Nat.pow 256 (5 - numbers.length)
  | none => false

/-- The domain name or address that a host on the network is. -/
def networkHost (cs : List Char) : Except UrlFault String :=
  if cs.head? = some '[' then (bracketed cs).map fun _ => String.ofList cs
  else
    let name := (Text.decodeUtf8 (Text.percentBytes (String.ofList cs))).toOption.bind Domain.toAscii?
    match name.filter fun name => !name.any isForbiddenInDomain with
    | none => .error .domainName
    | some [] => .error .emptyHost
    | some name =>
      if endsInNumber name ∧ !isIpv4 name then .error .ipv4 else .ok (String.ofList name)

/-- The host that a text names under a scheme that is not a network's. -/
def otherHost (cs : List Char) : Except UrlFault String :=
  if cs.head? = some '[' then (bracketed cs).map fun _ => String.ofList cs
  else if cs.any isForbidden then .error .hostCharacter
  else .ok (String.ofList cs)

/-- The host that a text names. -/
def hostOf (k : Kind) (cs : List Char) : Except UrlFault (Option String) :=
  match k, cs with
  | .network, [] => .error .emptyHost
  | .other, [] => .ok none
  | .other, cs => (otherHost cs).map some
  | _, cs => (networkHost cs).map some

/-! ### Ports -/

/-- The greatest port. -/
def portLimit : Nat := 65535

/-- Read digits onto the number read so far. -/
def portFrom (value : Nat) : List Char → Except UrlFault Nat
  | [] => .ok value
  | c :: cs =>
    if c.isDigit then
      let value := value * 10 + (c.toNat - 48)
      if value ≤ portLimit then portFrom value cs else .error .port
    else .error .port

/-- The port that a text names; no digits mean the usual one. -/
def portOf (cs : List Char) : Except UrlFault (Option Nat) :=
  if cs.isEmpty then .ok none else (portFrom 0 cs).map some

/-! ### Paths -/

/-- Whether a step of a path stays where it is. -/
def isHere (step : List Char) : Bool := [".", "%2e"].contains (String.ofList step).toLower

/-- Whether a step of a path leads back. -/
def isBack (step : List Char) : Bool :=
  ["..", ".%2e", "%2e.", "%2e%2e"].contains (String.ofList step).toLower

/-- Take the steps of a path one after the other. -/
def walk (taken : List (List Char)) : List (List Char) → List (List Char)
  | [] => taken
  | [step] =>
    if isBack step then taken.dropLast ++ [[]] else if isHere step then taken ++ [[]] else taken ++ [step]
  | step :: steps =>
    walk (if isBack step then taken.dropLast else if isHere step then taken else taken ++ [step]) steps

/-- The path that a text writes, without the slash in front of it. -/
def pathOf (k : Kind) (cs : List Char) : List Char :=
  let steps := Text.splitOn '/' (cs.map fun c => if k.isSlash c then '/' else c)
  Text.joinWith '/' (walk [] steps)

/-! ### Whole URLs -/

/-- Put the parts together behind the host: path, query, and a fragment that is dropped. -/
def finish (url : Url) (k : Kind) (isOpaque : Bool) (cs : List Char) : Url :=
  let cs := cs.takeWhile (· ≠ '#')
  let path := cs.takeWhile (· ≠ '?')
  let query := match cs.dropWhile (· ≠ '?') with
    | [] => none
    | _ :: query => some (String.ofList query)
  let path :=
    if isOpaque then path
    else
      match path with
      | [] => if k = .other then [] else ['/']
      | c :: rest => '/' :: pathOf k (if k.isSlash c then rest else path)
  { url with path := String.ofList path, query := query }

/-- A URL of which only the scheme has been read. -/
def bare (scheme : String) : Url := ⟨scheme, "", none, none, none, "", none⟩

/-- Whether an empty part before `@` is followed by no host at all. -/
def lacksHost (user host rest : List Char) : Bool := user.isEmpty && host.isEmpty && !rest.isEmpty

/-- Read user, host and port, and what follows them. A backslash ends a port under any scheme. -/
def parseAuthority (scheme : String) (k : Kind) (cs : List Char) : Except UrlFault Url := do
  let authority := cs.takeWhile (!k.endsAuthority ·)
  let rest := cs.dropWhile (!k.endsAuthority ·)
  let (user, place) := (splitUser? authority).getD ([], authority)
  if (splitUser? authority).isSome ∧ lacksHost user place rest then throw .emptyHost
  let length := hostLength false place
  let (name, password) := userOf user
  let host ← hostOf k (place.take length)
  let behind := place.drop length
  if host.isNone ∧ (!behind.isEmpty ∨ name ≠ "" ∨ password.isSome) then throw .emptyHost
  let port ← portOf ((behind.drop 1).takeWhile (· ≠ '\\'))
  let rest := behind.dropWhile (· ≠ '\\') ++ rest
  return finish { bare scheme with username := name, password, host, port } k false rest

/-- Whether the text is the letter of a drive, which is no host. -/
def isDrive : List Char → Bool
  | [c, ':'] | [c, '|'] => c.isAlpha
  | _ => false

/-- Read the host of a file, which may be absent, and what follows it. -/
def parseFile (scheme : String) (cs : List Char) : Except UrlFault Url := do
  let host := cs.takeWhile (!Kind.file.endsAuthority ·)
  if host.isEmpty ∨ isDrive host then return finish (bare scheme) .file false cs
  let name ← networkHost host
  let rest := cs.dropWhile (!Kind.file.endsAuthority ·)
  return finish { bare scheme with host := if name = "localhost" then none else some name } .file false rest

/-- Read what follows the scheme. -/
def parseRest (scheme : String) (cs : List Char) : Except UrlFault Url :=
  match kindOf scheme, cs with
  | .network, cs => parseAuthority scheme .network (cs.dropWhile Kind.network.isSlash)
  | .file, a :: b :: rest =>
    if Kind.file.isSlash a && Kind.file.isSlash b then parseFile scheme rest
    else .ok (finish (bare scheme) .file false cs)
  | .other, '/' :: '/' :: rest => parseAuthority scheme .other rest
  | .other, '/' :: _ => .ok (finish (bare scheme) .other false cs)
  | .other, _ => .ok (finish (bare scheme) .other true cs)
  | k, _ => .ok (finish (bare scheme) k false cs)

/-- Whether the character is a blank or a control in ASCII. -/
def isEdge (c : Char) : Bool := c.toNat ≤ 0x20

/-- Whether the character is ignored wherever it stands. -/
def isIgnored (c : Char) : Bool := c == '\t' || c == '\n' || c == '\r'

/-- The characters of a text that count. -/
def relevant (raw : String) : List Char :=
  let cs := raw.toList.dropWhile isEdge
  ((cs.reverse.dropWhile isEdge).reverse).filter (!isIgnored ·)

/-- Read a URL. -/
def parse (raw : String) : Except UrlFault Url :=
  match splitScheme? (relevant raw) with
  | none => .error .relative
  | some (scheme, rest) => parseRest scheme rest

/-! ### Queries -/

/-- One text of a query: a plus sign writes a blank. -/
def queryText (cs : List Char) : String :=
  let plain := String.ofList (cs.map fun c => if c = '+' then ' ' else c)
  String.ofList (Text.decodeUtf8Lossy (Text.percentBytes plain))

/-- The pairs of a query. -/
def queryPairs (query : String) : List (String × String) :=
  ((Text.splitOn '&' query.toList).filter (!·.isEmpty)).map fun field =>
    (queryText (field.takeWhile (· ≠ '=')), queryText ((field.dropWhile (· ≠ '=')).drop 1))

end Url

end Turnstile
