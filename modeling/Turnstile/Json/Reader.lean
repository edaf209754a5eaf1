import Turnstile.Json

namespace Turnstile.Json

/-!
# Reading requests

A request arrives as JSON text and is read straight into the record that it should be, from left to
right; the first thing wrong decides the fault.

* `text`, `optional` and `choice` read single values, `record` reads a record from an object or from an
  array of its fields in order.
* `ignore` passes over a value of a field that is not known. Such values may be nested to any depth.
* `read` reads a whole text.
-/

/-- Why a text was not read. -/
inductive ReadFault where
  /-- No JSON text starts like this. -/
  | malformed
  /-- JSON, but not of the kind that is wanted. -/
  | mismatched
  /-- The text ends too early. -/
  | cutShort
  deriving DecidableEq, Repr

/-- A reader of the front of a text. -/
abbrev Scan (α : Type) := List Char → Except ReadFault (α × List Char)

/-! ### Characters -/

/-- The blanks that may stand between tokens. -/
def isGap (c : Char) : Bool := c == ' ' || c == '\n' || c == '\t' || c == '\r'

/-- Drop blanks. -/
def skipGaps (cs : List Char) : List Char := cs.dropWhile isGap

/-- The value of a hexadecimal digit. -/
def hexValue? (c : Char) : Option Nat :=
  if c.isDigit then some (c.toNat - 48)
  else if 'a' ≤ c ∧ c ≤ 'f' then some (c.toNat - 87)
  else if 'A' ≤ c ∧ c ≤ 'F' then some (c.toNat - 55)
  else none

/-- The value of four hexadecimal digits at the front. An escape is cut short if fewer than four bytes
    are left. -/
def hexFour : Scan Nat
  | a :: b :: c :: d :: rest =>
    match hexValue? a, hexValue? b, hexValue? c, hexValue? d with
    | some a, some b, some c, some d => .ok (((a * 16 + b) * 16 + c) * 16 + d, rest)
    | _, _, _, _ => .error .malformed
  | rest => .error (if (String.ofList rest).utf8ByteSize < 4 then .cutShort else .malformed)

/-- The character that a one-letter escape stands for. -/
def shortEscape? : Char → Option Char
  | '"' => some '"'
  | '\\' => some '\\'
  | '/' => some '/'
  | 'b' => some '\x08'
  | 'f' => some '\x0c'
  | 'n' => some '\n'
  | 'r' => some '\r'
  | 't' => some '\t'
  | _ => none

/-- The rest of a word whose first letter has been read. -/
def word : List Char → Scan Unit
  | [], cs => .ok ((), cs)
  | _ :: _, [] => .error .cutShort
  | w :: ws, c :: cs => if c = w then word ws cs else .error .malformed

/-! ### Strings -/

/-- The character of an escape `\u…` whose digits come next. Halves of a pair must come together. -/
def unicodeEscape : Scan Char := fun cs => do
  let (n, cs) ← hexFour cs
  if 0xDC00 ≤ n ∧ n ≤ 0xDFFF then .error .malformed
  else if 0xD800 ≤ n ∧ n ≤ 0xDBFF then
    match cs with
    | '\\' :: 'u' :: cs =>
      let (m, cs) ← hexFour cs
      if 0xDC00 ≤ m ∧ m ≤ 0xDFFF then
        .ok (Char.ofNat (0x10000 + (n - 0xD800) * 0x400 + (m - 0xDC00)), cs)
      else .error .malformed
    | ['\\'] | [] => .error .cutShort
    | _ => .error .malformed
  else .ok (Char.ofNat n, cs)

/-- One character of a string, or its end. -/
def stringChar : Scan (Option Char)
  | [] | ['\\'] => .error .cutShort
  | '"' :: cs => .ok (none, cs)
  | '\\' :: 'u' :: cs => (unicodeEscape cs).map fun (c, cs) => (some c, cs)
  | '\\' :: e :: cs =>
    match shortEscape? e with
    | some c => .ok (some c, cs)
    | none => .error .malformed
  | c :: cs => if c.toNat < 0x20 then .error .malformed else .ok (some c, cs)

/-- The rest of a string of fewer than `fuel` characters, given those before, last first. -/
def stringFrom : Nat → List Char → Scan String
  | 0, _, _ => .error .cutShort
  | fuel + 1, before, cs => do
    match ← stringChar cs with
    | (none, cs) => .ok (String.ofList before.reverse, cs)
    | (some c, cs) => stringFrom fuel (c :: before) cs

/-- A string whose opening quote has been read. -/
def stringBody : Scan String := fun cs => stringFrom (cs.length + 1) [] cs

/-! ### Numbers that are not wanted -/

/-- Whether `significand` times ten to the `exponent` is a finite number. -/
def isFinite (significand : Nat) (exponent : Int) : Bool :=
  significand == 0 || exponent < 0
    || (exponent ≤ 308
      && !(significand.toFloat * Float.ofScientific 1 false exponent.toNat).isInf)

/-- The largest significand; the digits behind it only count. -/
def significandLimit : Nat := 18446744073709551615

/-- The largest exponent that is read. -/
def exponentLimit : Nat := 2147483647

/-- A number's significand and exponent so far. -/
structure Decimal where
  significand : Nat
  exponent : Int
  full : Bool

/-- Take in a digit that stands before or behind the point. -/
def Decimal.push (d : Decimal) (behind : Bool) (c : Char) : Decimal :=
  let next := d.significand * 10 + (c.toNat - 48)
  if d.full || significandLimit < next then
    { d with exponent := if behind then d.exponent else d.exponent + 1, full := true }
  else { d with significand := next, exponent := if behind then d.exponent - 1 else d.exponent }

/-- The digits of an exponent, behind its sign. -/
def exponentDigits (d : Decimal) (negative : Bool) : Scan Unit := fun cs =>
  let digits := cs.takeWhile Char.isDigit
  let rest := cs.dropWhile Char.isDigit
  match digits, rest with
  | [], [] => .error .cutShort
  | [], _ => .error .malformed
  | _, _ =>
    let n := digits.foldl (fun n c => n * 10 + (c.toNat - 48)) 0
    let fits :=
      if exponentLimit < n then d.significand == 0 || negative
      else isFinite d.significand (if negative then d.exponent - n else d.exponent + n)
    if fits then .ok ((), rest) else .error .malformed

/-- The rest of a number behind its digits and point. -/
def numberEnd (d : Decimal) : Scan Unit
  | e :: cs =>
    if e = 'e' ∨ e = 'E' then
      match cs with
      | '-' :: cs => exponentDigits d true cs
      | '+' :: cs => exponentDigits d false cs
      | cs => exponentDigits d false cs
    else if isFinite d.significand d.exponent then .ok ((), e :: cs) else .error .malformed
  | [] => if isFinite d.significand d.exponent then .ok ((), []) else .error .malformed

/-- The rest of a number behind its whole part. -/
def numberTail (d : Decimal) : Scan Unit
  | '.' :: cs =>
    match cs.takeWhile Char.isDigit, cs.dropWhile Char.isDigit with
    | [], [] => .error .cutShort
    | [], _ => .error .malformed
    | digits, rest => numberEnd (digits.foldl (·.push true) d) rest
  | cs => numberEnd d cs

/-- A number behind its sign: no leading zeros, and within the range of floating point. -/
def number : Scan Unit
  | [] => .error .cutShort
  | '0' :: c :: cs =>
    if c.isDigit then .error .malformed else numberTail ⟨0, 0, false⟩ (c :: cs)
  | c :: cs =>
    if c.isDigit then
      numberTail (((c :: cs).takeWhile Char.isDigit).foldl (·.push false) ⟨0, 0, false⟩)
        (cs.dropWhile Char.isDigit)
    else .error .malformed

/-- The fault of a value that is not of the wanted kind. A word, number or string is read to its end
    first, and may turn out to be malformed. -/
def mismatch {α : Type} : Scan α
  | 'n' :: cs => do let _ ← word "ull".toList cs; .error .mismatched
  | 't' :: cs => do let _ ← word "rue".toList cs; .error .mismatched
  | 'f' :: cs => do let _ ← word "alse".toList cs; .error .mismatched
  | '-' :: cs => do let _ ← number cs; .error .mismatched
  | '"' :: cs => do let _ ← stringBody cs; .error .mismatched
  | '[' :: _ | '\x7b' :: _ => .error .mismatched
  | c :: cs =>
    if c.isDigit then do let _ ← number (c :: cs); .error .mismatched else .error .malformed
  | [] => .error .cutShort

/-! ### Single values -/

/-- A string. -/
def text : Scan String := fun cs =>
  match skipGaps cs with
  | '"' :: cs => stringBody cs
  | cs => mismatch cs

/-- The word `null`. -/
def nothing : Scan Unit := fun cs =>
  match skipGaps cs with
  | 'n' :: cs => word "ull".toList cs
  | cs => mismatch cs

/-- A value or `null`. -/
def optional (scan : Scan α) : Scan (Option α) := fun cs =>
  match skipGaps cs with
  | 'n' :: cs => (word "ull".toList cs).map fun (_, cs) => (none, cs)
  | cs => (scan cs).map fun (a, cs) => (some a, cs)

/-- The colon behind a key. -/
def colon : Scan Unit := fun cs =>
  match skipGaps cs with
  | ':' :: cs => .ok ((), cs)
  | [] => .error .cutShort
  | _ => .error .malformed

/-- A string that must name one of a few things. -/
def named (ofName? : String → Option α) : Scan α := fun cs => do
  let (name, cs) ← text cs
  match ofName? name with
  | some a => .ok (a, cs)
  | none => .error .mismatched

/-- One of a few things: its name, or an object with its name as the only key and no value. -/
def choice (ofName? : String → Option α) : Scan α := fun cs =>
  match skipGaps cs with
  | [] => .error .cutShort
  | '"' :: cs => named ofName? ('"' :: cs)
  | '\x7b' :: cs => do
    let (a, cs) ← named ofName? cs
    let (_, cs) ← colon cs
    let (_, cs) ← nothing cs
    match skipGaps cs with
    | '\x7d' :: cs => .ok (a, cs)
    | [] => .error .cutShort
    | _ => .error .malformed
  | _ => .error .malformed

/-! ### Values that are passed over -/

/-- A bracket that is open. -/
inductive Frame where
  | array
  | object
  deriving DecidableEq, Repr

/-- How much of a number has been read. -/
inductive Digits where
  | sign
  | zero
  | whole
  | point
  | fraction
  | mark
  | markSign
  | exponent
  deriving DecidableEq, Repr

/-- What comes next in a value that is passed over. -/
inductive Place where
  | value
  | opened
  | after
  | key
  | keyEnd
  | word (rest : List Char)
  | text (isKey : Bool)
  | escape (isKey : Bool)
  | number (digits : Digits)
  deriving DecidableEq, Repr

/-- One more character of a number, if it belongs to it. -/
def Digits.next (d : Digits) (c : Char) : Option Digits :=
  match d with
  | sign => if c = '0' then some zero else if c.isDigit then some whole else none
  | zero => if c = '.' then some point else if c = 'e' ∨ c = 'E' then some mark else none
  | whole =>
    if c.isDigit then some whole else if c = '.' then some point
    else if c = 'e' ∨ c = 'E' then some mark else none
  | point => if c.isDigit then some fraction else none
  | fraction =>
    if c.isDigit then some fraction else if c = 'e' ∨ c = 'E' then some mark else none
  | mark =>
    if c = '+' ∨ c = '-' then some markSign else if c.isDigit then some exponent else none
  | markSign | exponent => if c.isDigit then some exponent else none

/-- Whether a number may end, and the character behind it may not be one of a number with a leading
    zero. -/
def Digits.endsBefore (d : Digits) (c : Char) : Bool :=
  match d with
  | whole | fraction | exponent => true
  | zero => !c.isDigit
  | _ => false

/-- Whether a number may end with the text. -/
def Digits.isComplete : Digits → Bool
  | zero | whole | fraction | exponent => true
  | _ => false

/-- What a value starts with. -/
def Place.ofStart? (c : Char) : Option Place :=
  match c with
  | 'n' => some (.word "ull".toList)
  | 't' => some (.word "rue".toList)
  | 'f' => some (.word "alse".toList)
  | '-' => some (.number .sign)
  | '"' => some (.text false)
  | _ => (Digits.next .sign c).map .number

/-- The closing bracket of a frame. -/
def Frame.closing : Frame → Char
  | array => ']'
  | object => '\x7d'

/-- What comes first inside a frame, or behind a comma. -/
def Frame.item : Frame → Place
  | array => .value
  | object => .key

/-- The place behind the first character of a value. -/
def start? (frames : List Frame) (c : Char) : Option (Place × List Frame) :=
  if c = '[' then some (.opened, .array :: frames)
  else if c = '\x7b' then some (.opened, .object :: frames)
  else (Place.ofStart? c).map (·, frames)

/-- The place behind the first character that follows a value inside brackets. -/
def behind? : List Frame → Char → Option (Place × List Frame)
  | [], _ => none
  | f :: fs, c =>
    if c = f.closing then some (.after, fs)
    else if c = ',' then some (f.item, f :: fs)
    else none

/-- The place behind the first character inside a bracket. -/
def inside? : List Frame → Char → Option (Place × List Frame)
  | [], _ => none
  | f :: fs, c =>
    if c = f.closing then some (.after, fs)
    else
      match f with
      | .array => start? (f :: fs) c
      | .object => if c = '"' then some (.text true, f :: fs) else none

/-- The place behind one more character. -/
def Place.step (place : Place) (frames : List Frame) (c : Char) : Option (Place × List Frame) :=
  match place with
  | text isKey =>
    if c = '"' then some (if isKey then keyEnd else after, frames)
    else if c = '\\' then some (escape isKey, frames)
    else if c.toNat < 0x20 then none
    else some (text isKey, frames)
  | escape isKey =>
    if c = 'u' ∨ (shortEscape? c).isSome then some (text isKey, frames) else none
  | word rest =>
    match rest with
    | [w] => if c = w then some (after, frames) else none
    | w :: ws => if c = w then some (word ws, frames) else none
    | [] => none
  | number digits =>
    match digits.next c with
    | some digits => some (number digits, frames)
    | none =>
      if !digits.endsBefore c then none
      else if isGap c then some (after, frames)
      else behind? frames c
  | value => if isGap c then some (value, frames) else start? frames c
  | opened => if isGap c then some (opened, frames) else inside? frames c
  | after => if isGap c then some (after, frames) else behind? frames c
  | key =>
    if isGap c then some (key, frames) else if c = '"' then some (text true, frames) else none
  | keyEnd =>
    if isGap c then some (keyEnd, frames) else if c = ':' then some (value, frames) else none

/-- The fault of a text that ends here. -/
def Place.cut : Place → ReadFault
  | number digits => if digits.isComplete then .cutShort else .malformed
  | _ => .cutShort

/-- Whether a number that stands alone ends before the character. -/
def Place.endsBefore (place : Place) (frames : List Frame) (c : Char) : Bool :=
  match place, frames with
  | number digits, [] => (digits.next c).isNone && digits.endsBefore c
  | _, _ => false

/-- Whether a number that stands alone may end with the text. -/
def Place.isComplete (place : Place) (frames : List Frame) : Bool :=
  match place, frames with
  | number digits, [] => digits.isComplete
  | _, _ => false

/-- The fault of an escape whose digits come next, if it has one. -/
def escapeFault? (place : Place) (c : Char) (cs : List Char) : Option ReadFault :=
  match place, c with
  | .escape _, 'u' =>
    match hexFour cs with
    | .ok _ => none
    | .error fault => some fault
  | _, _ => none

/-- Pass over the rest of a value, given the open brackets, innermost first. -/
def ignoreFrom : Place → List Frame → List Char → Except ReadFault (List Char)
  | .after, [], cs => .ok cs
  | place, frames, [] => if place.isComplete frames then .ok [] else .error place.cut
  | place, frames, c :: cs =>
    if place.endsBefore frames c then .ok (c :: cs)
    else
      match escapeFault? place c cs, place.step frames c with
      | some fault, _ => .error fault
      | none, some (place, frames) => ignoreFrom place frames cs
      | none, none => .error .malformed

/-- Pass over a value. -/
def ignore : Scan Unit := fun cs => (ignoreFrom .value [] cs).map ((), ·)

/-! ### Records -/

/-- A field of a record that is read into `ρ`; a field that may be left out of an array is optional. -/
structure Member (ρ : Type) where
  name : String
  isOptional : Bool
  scan : Scan (ρ → ρ)

/-- Read the fields of an object of fewer than `fuel` characters; `seen` are the names so far. -/
def objectFrom (members : List (Member ρ)) : Nat → Bool → List String → ρ → Scan ρ
  | 0, _, _, _, _ => .error .cutShort
  | fuel + 1, isFirst, seen, r, cs =>
    match isFirst, skipGaps cs with
    | _, [] => .error .cutShort
    | _, '\x7d' :: cs => .ok (r, cs)
    | false, ',' :: cs =>
      match skipGaps cs with
      | [] => .error .cutShort
      | '"' :: cs => field fuel seen r cs
      | _ => .error .malformed
    | true, '"' :: cs => field fuel seen r cs
    | _, _ => .error .malformed
where
  /-- One field whose key's opening quote has been read. A field may be given only once. -/
  field (fuel : Nat) (seen : List String) (r : ρ) : Scan ρ := fun cs => do
    let (name, cs) ← stringBody cs
    match members.find? (·.name == name) with
    | none =>
      let (_, cs) ← colon cs
      let (_, cs) ← ignore cs
      objectFrom members fuel false seen r cs
    | some member =>
      if seen.contains name then .error .mismatched
      else
        let (_, cs) ← colon cs
        let (set, cs) ← member.scan cs
        objectFrom members fuel false (name :: seen) (set r) cs

/-- The closing bracket of an array that has all its elements. -/
def arrayEnd (r : ρ) : Scan ρ := fun cs =>
  match skipGaps cs with
  | ']' :: cs => .ok (r, cs)
  | [] => .error .cutShort
  | _ => .error .malformed

/-- Read the fields of a record from an array. -/
def arrayFrom : List (Member ρ) → Bool → ρ → Scan ρ
  | [], _, r, cs => arrayEnd r cs
  | member :: members, isFirst, r, cs =>
    match isFirst, skipGaps cs with
    | _, [] => .error .cutShort
    | _, ']' :: cs =>
      if (member :: members).all (·.isOptional) then .ok (r, cs) else .error .mismatched
    | false, ',' :: cs =>
      match skipGaps cs with
      | [] => .error .cutShort
      | ']' :: _ => .error .malformed
      | cs => do
        let (set, cs) ← member.scan cs
        arrayFrom members false (set r) cs
    | false, _ => .error .malformed
    | true, cs => do
      let (set, cs) ← member.scan cs
      arrayFrom members false (set r) cs

/-- A record, on top of the values its fields have when they are left out. -/
def record (members : List (Member ρ)) (r : ρ) : Scan ρ := fun cs =>
  match skipGaps cs with
  | '\x7b' :: cs => objectFrom members (cs.length + 1) true [] r cs
  | '[' :: cs => arrayFrom members true r cs
  | cs => mismatch cs

/-! ### Whole texts -/

/-- Read a whole text; only blanks may follow the value. -/
def read (scan : Scan α) (s : String) : Except ReadFault α := do
  let (a, rest) ← scan s.toList
  if (skipGaps rest).isEmpty then .ok a else .error .malformed

end Turnstile.Json
