import Turnstile.Text.Hex

namespace Turnstile.Digest.Sha256

/-!
# SHA-256

The digest of FIPS 180-4: a padded message is cut into blocks of 64 bytes, and each block is mixed into
a state of eight 32-bit words.

* `digest` is the digest as 32 bytes (`digest_length`).
* `hexDigest` is its hexadecimal text.
-/

/-- The chaining state. -/
structure State where
  a : UInt32
  b : UInt32
  c : UInt32
  d : UInt32
  e : UInt32
  f : UInt32
  g : UInt32
  h : UInt32

/-- The state before the first block. -/
def start : State :=
  ⟨0x6a09e667, 0xbb67ae85, 0x3c6ef372, 0xa54ff53a,
   0x510e527f, 0x9b05688c, 0x1f83d9ab, 0x5be0cd19⟩

/-- The constants of the 64 rounds. -/
def roundConstants : Array UInt32 :=
  #[
    0x428a2f98, 0x71374491, 0xb5c0fbcf, 0xe9b5dba5, 0x3956c25b, 0x59f111f1,
    0x923f82a4, 0xab1c5ed5, 0xd807aa98, 0x12835b01, 0x243185be, 0x550c7dc3,
    0x72be5d74, 0x80deb1fe, 0x9bdc06a7, 0xc19bf174, 0xe49b69c1, 0xefbe4786,
    0x0fc19dc6, 0x240ca1cc, 0x2de92c6f, 0x4a7484aa, 0x5cb0a9dc, 0x76f988da,
    0x983e5152, 0xa831c66d, 0xb00327c8, 0xbf597fc7, 0xc6e00bf3, 0xd5a79147,
    0x06ca6351, 0x14292967, 0x27b70a85, 0x2e1b2138, 0x4d2c6dfc, 0x53380d13,
    0x650a7354, 0x766a0abb, 0x81c2c92e, 0x92722c85, 0xa2bfe8a1, 0xa81a664b,
    0xc24b8b70, 0xc76c51a3, 0xd192e819, 0xd6990624, 0xf40e3585, 0x106aa070,
    0x19a4c116, 0x1e376c08, 0x2748774c, 0x34b0bcb5, 0x391c0cb3, 0x4ed8aa4a,
    0x5b9cca4f, 0x682e6ff3, 0x748f82ee, 0x78a5636f, 0x84c87814, 0x8cc70208,
    0x90befffa, 0xa4506ceb, 0xbef9a3f7, 0xc67178f2
  ]

/-! ### Words -/

/-- Rotate right by `n` places. -/
@[inline] def rotate (x : UInt32) (n : UInt32) : UInt32 := (x >>> n) ||| (x <<< (32 - n))

/-- The byte at a position; zero beyond the end. -/
@[inline] def byteAt (m : ByteArray) (i : Nat) : UInt8 := if h : i < m.size then m[i] else 0

/-- The word whose four bytes start at position `i`, most significant byte first. -/
def wordAt (m : ByteArray) (i : Nat) : UInt32 :=
  (byteAt m i).toUInt32 <<< 24 ||| (byteAt m (i + 1)).toUInt32 <<< 16
    ||| (byteAt m (i + 2)).toUInt32 <<< 8 ||| (byteAt m (i + 3)).toUInt32

/-- The four bytes of a word, most significant first. -/
def wordBytes (w : UInt32) : List UInt8 :=
  [(w >>> 24).toUInt8, (w >>> 16).toUInt8, (w >>> 8).toUInt8, w.toUInt8]

/-! ### Compression -/

/-- The next word of the schedule from the sixteen words before it. -/
def nextWord (w : Array UInt32) : UInt32 :=
  let n := w.size
  let x := w.getD (n - 15) 0
  let y := w.getD (n - 2) 0
  w.getD (n - 16) 0 + (rotate x 7 ^^^ rotate x 18 ^^^ (x >>> 3)) + w.getD (n - 7) 0
    + (rotate y 17 ^^^ rotate y 19 ^^^ (y >>> 10))

/-- The 64 words scheduled for the block at position `i`. -/
def schedule (m : ByteArray) (i : Nat) : Array UInt32 :=
  let words := Nat.fold 16 (fun k _ w => w.push (wordAt m (i + 4 * k))) (Array.mkEmpty 64)
  Nat.fold 48 (fun _ _ w => w.push (nextWord w)) words

/-- One round with a round constant and a scheduled word added. -/
def round (s : State) (kw : UInt32) : State :=
  let t := s.h + (rotate s.e 6 ^^^ rotate s.e 11 ^^^ rotate s.e 25)
    + ((s.e &&& s.f) ^^^ (~~~s.e &&& s.g)) + kw
  let u := (rotate s.a 2 ^^^ rotate s.a 13 ^^^ rotate s.a 22)
    + ((s.a &&& s.b) ^^^ (s.a &&& s.c) ^^^ (s.b &&& s.c))
  ⟨t + u, s.a, s.b, s.c, s.d + t, s.e, s.f, s.g⟩

/-- Mix the block at position `i` into the state. -/
def compress (m : ByteArray) (s : State) (i : Nat) : State :=
  let w := schedule m i
  let r := Nat.fold 64 (fun k _ r => round r (roundConstants.getD k 0 + w.getD k 0)) s
  ⟨s.a + r.a, s.b + r.b, s.c + r.c, s.d + r.d, s.e + r.e, s.f + r.f, s.g + r.g, s.h + r.h⟩

/-! ### Messages -/

/-- The zeros that bring message, end mark and length to whole blocks. -/
def zeros (size : Nat) : Nat := (119 - size % 64) % 64

/-- The message with end mark, zeros and its length in bits. -/
def padded (m : ByteArray) : ByteArray :=
  let bits := 8 * m.size
  let marked := Nat.fold (zeros m.size) (fun _ _ p => p.push 0) (m.push 0x80)
  Nat.fold 8 (fun k _ p => p.push (UInt8.ofNat (bits >>> (8 * (7 - k))))) marked

/-- The digest of a message. -/
def digest (m : ByteArray) : List UInt8 :=
  let p := padded m
  let s := Nat.fold (p.size / 64) (fun k _ s => compress p s (64 * k)) start
  [s.a, s.b, s.c, s.d, s.e, s.f, s.g, s.h].flatMap wordBytes

/-- The digest of a message in hexadecimal. -/
def hexDigest (m : ByteArray) : String := String.ofList (Text.hex (digest m))

theorem digest_length (m : ByteArray) : (digest m).length = 32 := rfl

end Turnstile.Digest.Sha256
