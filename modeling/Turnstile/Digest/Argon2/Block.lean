import Turnstile.Digest.Blake2b

namespace Turnstile.Digest.Argon2

open Blake2b (rotate wordAt wordBytes)

/-!
# Blocks of Argon2 memory

A block is a square of eight rows of sixteen words. Two blocks are mixed by one permutation applied to
every row and then, with the square turned over, to every column.

* `Row.permute` is the permutation of sixteen words.
* `Block.transpose` turns the square over in units of two words; done twice it changes nothing
  (`Block.transpose_transpose`).
* `Block.mix` is the compression of two blocks.
-/

/-- Sixteen words. -/
structure Row where
  w0 : UInt64
  w1 : UInt64
  w2 : UInt64
  w3 : UInt64
  w4 : UInt64
  w5 : UInt64
  w6 : UInt64
  w7 : UInt64
  w8 : UInt64
  w9 : UInt64
  w10 : UInt64
  w11 : UInt64
  w12 : UInt64
  w13 : UInt64
  w14 : UInt64
  w15 : UInt64

namespace Row

/-- Sixteen zeros. -/
def zero : Row :=
  ⟨0, 0, 0, 0, 0, 0, 0, 0, 0, 0, 0, 0, 0, 0, 0, 0⟩

/-- Word by word exclusive or. -/
def xor (x y : Row) : Row :=
  ⟨x.w0 ^^^ y.w0, x.w1 ^^^ y.w1, x.w2 ^^^ y.w2, x.w3 ^^^ y.w3,
   x.w4 ^^^ y.w4, x.w5 ^^^ y.w5, x.w6 ^^^ y.w6, x.w7 ^^^ y.w7,
   x.w8 ^^^ y.w8, x.w9 ^^^ y.w9, x.w10 ^^^ y.w10, x.w11 ^^^ y.w11,
   x.w12 ^^^ y.w12, x.w13 ^^^ y.w13, x.w14 ^^^ y.w14, x.w15 ^^^ y.w15⟩

/-- The sum of two words and twice the product of their lower halves. -/
@[inline] def blend (x y : UInt64) : UInt64 :=
  x + y + 2 * (x &&& 0xffffffff) * (y &&& 0xffffffff)

/-- Mix four words and hand them on. -/
@[inline] def quarter (a b c d : UInt64) (next : UInt64 → UInt64 → UInt64 → UInt64 → α) : α :=
  let a := blend a b
  let d := rotate (d ^^^ a) 32
  let c := blend c d
  let b := rotate (b ^^^ c) 24
  let a := blend a b
  let d := rotate (d ^^^ a) 16
  let c := blend c d
  let b := rotate (b ^^^ c) 63
  next a b c d

/-- The permutation: the words as a square of four by four, first its columns, then its diagonals. -/
def permute (r : Row) : Row :=
  quarter r.w0 r.w4 r.w8 r.w12 fun v0 v4 v8 v12 =>
  quarter r.w1 r.w5 r.w9 r.w13 fun v1 v5 v9 v13 =>
  quarter r.w2 r.w6 r.w10 r.w14 fun v2 v6 v10 v14 =>
  quarter r.w3 r.w7 r.w11 r.w15 fun v3 v7 v11 v15 =>
  quarter v0 v5 v10 v15 fun v0 v5 v10 v15 =>
  quarter v1 v6 v11 v12 fun v1 v6 v11 v12 =>
  quarter v2 v7 v8 v13 fun v2 v7 v8 v13 =>
  quarter v3 v4 v9 v14 fun v3 v4 v9 v14 =>
  ⟨v0, v1, v2, v3, v4, v5, v6, v7,
   v8, v9, v10, v11, v12, v13, v14, v15⟩

/-- The words in order. -/
def toList (r : Row) : List UInt64 :=
  [r.w0, r.w1, r.w2, r.w3, r.w4, r.w5, r.w6, r.w7,
   r.w8, r.w9, r.w10, r.w11, r.w12, r.w13, r.w14, r.w15]

end Row

/-- Eight rows. -/
structure Block where
  r0 : Row
  r1 : Row
  r2 : Row
  r3 : Row
  r4 : Row
  r5 : Row
  r6 : Row
  r7 : Row

namespace Block

/-- The block of zeros. -/
def zero : Block :=
  ⟨.zero, .zero, .zero, .zero, .zero, .zero, .zero, .zero⟩

instance : Inhabited Block := ⟨zero⟩

/-- Word by word exclusive or. -/
def xor (x y : Block) : Block :=
  ⟨x.r0.xor y.r0, x.r1.xor y.r1, x.r2.xor y.r2, x.r3.xor y.r3,
   x.r4.xor y.r4, x.r5.xor y.r5, x.r6.xor y.r6, x.r7.xor y.r7⟩

/-- Apply the permutation to every row. -/
def permuteRows (b : Block) : Block :=
  ⟨b.r0.permute, b.r1.permute, b.r2.permute, b.r3.permute,
   b.r4.permute, b.r5.permute, b.r6.permute, b.r7.permute⟩

/-- Exchange rows and columns of word pairs. -/
def transpose (b : Block) : Block :=
  ⟨⟨b.r0.w0, b.r0.w1, b.r1.w0, b.r1.w1, b.r2.w0, b.r2.w1,
      b.r3.w0, b.r3.w1, b.r4.w0, b.r4.w1, b.r5.w0, b.r5.w1,
      b.r6.w0, b.r6.w1, b.r7.w0, b.r7.w1⟩,
   ⟨b.r0.w2, b.r0.w3, b.r1.w2, b.r1.w3, b.r2.w2, b.r2.w3,
      b.r3.w2, b.r3.w3, b.r4.w2, b.r4.w3, b.r5.w2, b.r5.w3,
      b.r6.w2, b.r6.w3, b.r7.w2, b.r7.w3⟩,
   ⟨b.r0.w4, b.r0.w5, b.r1.w4, b.r1.w5, b.r2.w4, b.r2.w5,
      b.r3.w4, b.r3.w5, b.r4.w4, b.r4.w5, b.r5.w4, b.r5.w5,
      b.r6.w4, b.r6.w5, b.r7.w4, b.r7.w5⟩,
   ⟨b.r0.w6, b.r0.w7, b.r1.w6, b.r1.w7, b.r2.w6, b.r2.w7,
      b.r3.w6, b.r3.w7, b.r4.w6, b.r4.w7, b.r5.w6, b.r5.w7,
      b.r6.w6, b.r6.w7, b.r7.w6, b.r7.w7⟩,
   ⟨b.r0.w8, b.r0.w9, b.r1.w8, b.r1.w9, b.r2.w8, b.r2.w9,
      b.r3.w8, b.r3.w9, b.r4.w8, b.r4.w9, b.r5.w8, b.r5.w9,
      b.r6.w8, b.r6.w9, b.r7.w8, b.r7.w9⟩,
   ⟨b.r0.w10, b.r0.w11, b.r1.w10, b.r1.w11, b.r2.w10, b.r2.w11,
      b.r3.w10, b.r3.w11, b.r4.w10, b.r4.w11, b.r5.w10, b.r5.w11,
      b.r6.w10, b.r6.w11, b.r7.w10, b.r7.w11⟩,
   ⟨b.r0.w12, b.r0.w13, b.r1.w12, b.r1.w13, b.r2.w12, b.r2.w13,
      b.r3.w12, b.r3.w13, b.r4.w12, b.r4.w13, b.r5.w12, b.r5.w13,
      b.r6.w12, b.r6.w13, b.r7.w12, b.r7.w13⟩,
   ⟨b.r0.w14, b.r0.w15, b.r1.w14, b.r1.w15, b.r2.w14, b.r2.w15,
      b.r3.w14, b.r3.w15, b.r4.w14, b.r4.w15, b.r5.w14, b.r5.w15,
      b.r6.w14, b.r6.w15, b.r7.w14, b.r7.w15⟩⟩

theorem transpose_transpose (b : Block) : b.transpose.transpose = b := rfl

/-- The compression of two blocks. -/
def mix (x y : Block) : Block :=
  let r := x.xor y
  r.permuteRows.transpose.permuteRows.transpose.xor r

/-- The words in order. -/
def toList (b : Block) : List UInt64 :=
  [b.r0, b.r1, b.r2, b.r3, b.r4, b.r5, b.r6, b.r7].flatMap Row.toList

/-- The row whose first byte stands at position `i`. -/
def rowAt (m : ByteArray) (i : Nat) : Row :=
  ⟨wordAt m i, wordAt m (i + 8), wordAt m (i + 16), wordAt m (i + 24),
   wordAt m (i + 32), wordAt m (i + 40), wordAt m (i + 48), wordAt m (i + 56),
   wordAt m (i + 64), wordAt m (i + 72), wordAt m (i + 80), wordAt m (i + 88),
   wordAt m (i + 96), wordAt m (i + 104), wordAt m (i + 112), wordAt m (i + 120)⟩

/-- The block written as 1024 bytes, least significant byte of each word first. -/
def ofBytes (m : ByteArray) : Block :=
  ⟨rowAt m 0, rowAt m 128, rowAt m 256, rowAt m 384,
   rowAt m 512, rowAt m 640, rowAt m 768, rowAt m 896⟩

/-- The bytes of the block. -/
def toBytes (b : Block) : List UInt8 := b.toList.flatMap wordBytes

/-- The word at a position below 128. -/
def word (b : Block) (i : Nat) : UInt64 := b.toList.getD i 0

end Block

end Turnstile.Digest.Argon2
