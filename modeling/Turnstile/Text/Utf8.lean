namespace Turnstile.Text

/-!
# Reading UTF-8

Bytes are cut into characters and into pieces that stand for none. A piece without a character is as long
as a character's encoding could still have been when a byte came that cannot follow.

* `utf8Pieces` is the cut.
* `decodeUtf8` wants characters only and reports where the first fault is.
* `decodeUtf8Lossy` puts U+FFFD in the place of each fault.
-/

/-! ### Pieces -/

/-- A character, or bytes that stand for none; `cut` if more of them were expected at the end. -/
inductive Piece where
  | char (c : Char)
  | bad (size : Nat)
  | cut
  deriving DecidableEq, Repr

/-- A character of which some bytes have been read: its bits so far, how many bytes they are, and the
    ranges in which the bytes to come must lie. -/
structure Partial where
  value : Nat
  size : Nat
  first : Nat × Nat
  more : List (Nat × Nat)

/-- The range of a byte behind the first. -/
def continuation : Nat × Nat := (0x80, 0xBF)

/-- The range of the second byte of three: no surrogates, nothing that fits into two bytes. -/
def secondOfThree (lead : Nat) : Nat × Nat :=
  if lead = 0xE0 then (0xA0, 0xBF) else if lead = 0xED then (0x80, 0x9F) else continuation

/-- The range of the second byte of four: nothing that fits into three bytes, nothing past U+10FFFF. -/
def secondOfFour (lead : Nat) : Nat × Nat :=
  if lead = 0xF0 then (0x90, 0xBF) else if lead = 0xF4 then (0x80, 0x8F) else continuation

/-- What follows a first byte that is not ASCII. -/
def lead? (b : Nat) : Option Partial :=
  if b < 0xC2 then none
  else if b < 0xE0 then some ⟨b % 0x20, 1, continuation, []⟩
  else if b < 0xF0 then some ⟨b % 0x10, 1, secondOfThree b, [continuation]⟩
  else if b < 0xF5 then some ⟨b % 0x08, 1, secondOfFour b, [continuation, continuation]⟩
  else none

mutual

/-- Cut bytes at the start of a character. -/
def utf8Pieces : List UInt8 → List Piece
  | [] => []
  | b :: bs =>
    if b.toNat < 0x80 then .char (Char.ofNat b.toNat) :: utf8Pieces bs
    else
      match lead? b.toNat with
      | some p => utf8Rest p bs
      | none => .bad 1 :: utf8Pieces bs
termination_by bs => (bs.length, 0)

/-- Cut bytes within a character. -/
def utf8Rest (p : Partial) : List UInt8 → List Piece
  | [] => [.cut]
  | b :: bs =>
    if p.first.1 ≤ b.toNat ∧ b.toNat ≤ p.first.2 then
      let value := p.value * 0x40 + b.toNat % 0x40
      match p.more with
      | [] => .char (Char.ofNat value) :: utf8Pieces bs
      | next :: more => utf8Rest ⟨value, p.size + 1, next, more⟩ bs
    else .bad p.size :: utf8Pieces (b :: bs)
termination_by bs => (bs.length, 1)

end

/-! ### Strict reading -/

/-- The first fault: how many bytes before it are well formed, and its length unless the end cut it. -/
structure Utf8Fault where
  index : Nat
  size : Option Nat
  deriving DecidableEq, Repr

/-- The wording of a fault. -/
def Utf8Fault.message (f : Utf8Fault) : String :=
  match f.size with
  | some n => "invalid utf-8 sequence of " ++ toString n ++ " bytes from index " ++ toString f.index
  | none => "incomplete utf-8 byte sequence from index " ++ toString f.index

/-- The characters of pieces that start at an index. -/
def charsOfPieces (index : Nat) : List Piece → Except Utf8Fault (List Char)
  | [] => .ok []
  | .char c :: ps => (charsOfPieces (index + c.utf8Size) ps).map (c :: ·)
  | .bad n :: _ => .error ⟨index, some n⟩
  | .cut :: _ => .error ⟨index, none⟩

/-- Read bytes that should be UTF-8. -/
def decodeUtf8 (bs : List UInt8) : Except Utf8Fault (List Char) := charsOfPieces 0 (utf8Pieces bs)

/-! ### Lenient reading -/

/-- The character shown for a piece. -/
def Piece.shown : Piece → Char
  | char c => c
  | bad _ | cut => '\uFFFD'

/-- Read bytes that may not be UTF-8. -/
def decodeUtf8Lossy (bs : List UInt8) : List Char := (utf8Pieces bs).map Piece.shown

example : decodeUtf8 [0x61, 0xC3, 0xA9] = .ok ['a', 'é'] := by cbv

example : decodeUtf8 [0x61, 0xE2, 0x82, 0x41] = .error ⟨1, some 2⟩ := by cbv

example : decodeUtf8 [0x61, 0xE2, 0x82] = .error ⟨1, none⟩ := by cbv

end Turnstile.Text
