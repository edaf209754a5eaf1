namespace Turnstile.Digest.Blake2b

/-!
# BLAKE2b

The unkeyed digest of RFC 7693 with 1 to 64 bytes of output: blocks of 128 bytes are mixed into a state
of eight 64-bit words, the count of bytes so far and a mark on the last block taking part.

* `digest` is the digest of a message.
* `rotate` and `wordBytes` are shared with the block mixing of Argon2.
-/

/-! ### Words -/

/-- Rotate right by `n` places. -/
@[inline] def rotate (x : UInt64) (n : UInt64) : UInt64 := (x >>> n) ||| (x <<< (64 - n))

/-- The byte at a position; zero beyond the end. -/
@[inline] def byteAt (m : ByteArray) (i : Nat) : UInt8 := if h : i < m.size then m[i] else 0

/-- The word whose eight bytes start at position `i`, least significant byte first. -/
def wordAt (m : ByteArray) (i : Nat) : UInt64 :=
  Nat.fold 8 (fun k _ w => w <<< 8 ||| (byteAt m (i + (7 - k))).toUInt64) 0

/-- The eight bytes of a word, least significant first. -/
def wordBytes (w : UInt64) : List UInt8 :=
  (List.range 8).map fun k => (w >>> UInt64.ofNat (8 * k)).toUInt8

/-! ### Compression -/

/-- The initial chaining words. -/
def initial : Vector UInt64 8 :=
  #v[0x6a09e667f3bcc908, 0xbb67ae8584caa73b, 0x3c6ef372fe94f82b, 0xa54ff53a5f1d36f1,
     0x510e527fade682d1, 0x9b05688c2b3e6c1f, 0x1f83d9abfb41bd6b, 0x5be0cd19137e2179]

/-- The orders in which the rounds read the sixteen words of a block. -/
def orders : List (Vector (Fin 16) 16) :=
  [ #v[0, 1, 2, 3, 4, 5, 6, 7, 8, 9, 10, 11, 12, 13, 14, 15],
    #v[14, 10, 4, 8, 9, 15, 13, 6, 1, 12, 0, 2, 11, 7, 5, 3],
    #v[11, 8, 12, 0, 5, 2, 15, 13, 10, 14, 3, 6, 7, 1, 9, 4],
    #v[7, 9, 3, 1, 13, 12, 11, 14, 2, 6, 5, 10, 4, 0, 15, 8],
    #v[9, 0, 5, 7, 2, 4, 10, 15, 14, 1, 11, 12, 6, 8, 3, 13],
    #v[2, 12, 6, 10, 0, 11, 8, 3, 4, 13, 7, 5, 15, 14, 1, 9],
    #v[12, 5, 1, 15, 14, 13, 4, 10, 0, 7, 6, 3, 9, 2, 8, 11],
    #v[13, 11, 7, 14, 12, 1, 3, 9, 5, 0, 15, 4, 8, 6, 2, 10],
    #v[6, 15, 14, 9, 11, 3, 0, 8, 12, 2, 13, 7, 1, 4, 10, 5],
    #v[10, 2, 8, 4, 7, 6, 1, 5, 15, 11, 9, 14, 3, 12, 13, 0],
    #v[0, 1, 2, 3, 4, 5, 6, 7, 8, 9, 10, 11, 12, 13, 14, 15],
    #v[14, 10, 4, 8, 9, 15, 13, 6, 1, 12, 0, 2, 11, 7, 5, 3] ]

/-- Mix two message words into four words of the working vector. -/
def mix (v : Vector UInt64 16) (a b c d : Fin 16) (x y : UInt64) : Vector UInt64 16 :=
  let va := v[a] + v[b] + x
  let vd := rotate (v[d] ^^^ va) 32
  let vc := v[c] + vd
  let vb := rotate (v[b] ^^^ vc) 24
  let va := va + vb + y
  let vd := rotate (vd ^^^ va) 16
  let vc := vc + vd
  let vb := rotate (vb ^^^ vc) 63
  (((v.set a va).set b vb).set c vc).set d vd

/-- One round: the four columns, then the four diagonals. -/
def round (m : Vector UInt64 16) (v : Vector UInt64 16) (s : Vector (Fin 16) 16) :
    Vector UInt64 16 :=
  let v := mix v 0 4 8 12 m[s[0]] m[s[1]]
  let v := mix v 1 5 9 13 m[s[2]] m[s[3]]
  let v := mix v 2 6 10 14 m[s[4]] m[s[5]]
  let v := mix v 3 7 11 15 m[s[6]] m[s[7]]
  let v := mix v 0 5 10 15 m[s[8]] m[s[9]]
  let v := mix v 1 6 11 12 m[s[10]] m[s[11]]
  let v := mix v 2 7 8 13 m[s[12]] m[s[13]]
  mix v 3 4 9 14 m[s[14]] m[s[15]]

/-- Mix the block at position `i` into the state; `count` bytes have been read, that block included. -/
def compress (msg : ByteArray) (h : Vector UInt64 8) (i count : Nat) (last : Bool) :
    Vector UInt64 8 :=
  let m : Vector UInt64 16 := Vector.ofFn fun k => wordAt msg (i + 8 * k)
  let v : Vector UInt64 16 := (h ++ initial).cast rfl
  let v := v.set 12 (v[12] ^^^ UInt64.ofNat count)
  let v := v.set 13 (v[13] ^^^ UInt64.ofNat (count >>> 64))
  let v := if last then v.set 14 (v[14] ^^^ 0xffffffffffffffff) else v
  let v := orders.foldl (round m) v
  Vector.ofFn fun k => h[k] ^^^ v.get ⟨k.val, by omega⟩ ^^^ v.get ⟨k.val + 8, by omega⟩

/-! ### Messages -/

/-- The first `length` bytes of the digest of a message. -/
def digest (length : Nat) (msg : ByteArray) : List UInt8 :=
  let h := initial.set 0 (initial[0] ^^^ 0x01010000 ^^^ UInt64.ofNat length)
  let full := (msg.size - 1) / 128
  let h := Nat.fold full (fun k _ h => compress msg h (128 * k) (128 * (k + 1)) false) h
  let h := compress msg h (128 * full) msg.size true
  (h.toList.flatMap wordBytes).take length

end Turnstile.Digest.Blake2b
