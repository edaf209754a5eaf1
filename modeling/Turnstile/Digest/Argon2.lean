import Turnstile.Digest.Argon2.Block

namespace Turnstile.Digest.Argon2

open Blake2b (wordBytes)

/-!
# Argon2

The memory-hard function of RFC 9106, in its three variants and two versions. A memory of blocks in
`lanes` rows is filled several times over; each block mixes the one before it in its lane with one
chosen by a pseudo-random word.

* `Inputs` gathers everything that a tag depends on.
* `tag` is the tag of the given length.

A pass over the memory is cut into four slices. Within a slice the lanes refer only to finished slices
of each other, so filling them one after the other gives what filling them together would.
-/

/-- How the block to mix in is chosen: by the memory, by position alone, or by position at first. -/
inductive Variant where
  | d
  | i
  | id
  deriving DecidableEq, Repr

/-- Version 16 overwrites blocks on later passes; version 19 mixes into them. -/
inductive Version where
  | v16
  | v19
  deriving DecidableEq, Repr

/-- Memory in kibibytes, number of passes and number of lanes. -/
structure Cost where
  memory : Nat
  passes : Nat
  lanes : Nat
  deriving DecidableEq, Repr

/-- Everything that a tag depends on, its length included. -/
structure Inputs where
  variant : Variant
  version : Version
  cost : Cost
  length : Nat
  secret : List UInt8
  salt : List UInt8
  data : List UInt8

/-- The number that stands for a variant in the first digest. -/
def Variant.code : Variant → Nat
  | .d => 0
  | .i => 1
  | .id => 2

/-- The number of a version. -/
def Version.number : Version → Nat
  | .v16 => 16
  | .v19 => 19

/-! ### The first blocks -/

/-- A number as four bytes, least significant first. -/
def bytes4 (n : Nat) : List UInt8 :=
  [UInt8.ofNat n, UInt8.ofNat (n >>> 8), UInt8.ofNat (n >>> 16), UInt8.ofNat (n >>> 24)]

/-- A sequence of bytes after its length. -/
def counted (bs : List UInt8) : List UInt8 := bytes4 bs.length ++ bs

/-- The digest of all inputs, from which the first blocks are made. -/
def firstDigest (x : Inputs) : List UInt8 :=
  Blake2b.digest 64
    ([x.cost.lanes, x.length, x.cost.memory, x.cost.passes, x.version.number,
        x.variant.code].flatMap bytes4
      ++ counted x.secret ++ counted x.salt ++ counted [] ++ counted x.data).toByteArray

/-- All bytes but the last up to 64 of a long digest: each digest in the chain gives its first half. -/
def chain : Nat → List UInt8 → Nat → List UInt8
  | 0, v, last => Blake2b.digest last v.toByteArray
  | n + 1, v, last =>
    let v := Blake2b.digest 64 v.toByteArray
    v.take 32 ++ chain n v last

/-- A digest of any length. -/
def longDigest (length : Nat) (input : List UInt8) : List UInt8 :=
  let v := bytes4 length ++ input
  if length ≤ 64 then Blake2b.digest length v.toByteArray
  else
    let halves := (length + 31) / 32 - 2
    chain halves v (length - 32 * halves)

/-- One of the two first blocks of a lane. -/
def firstBlock (seed : List UInt8) (column lane : Nat) : Block :=
  .ofBytes (longDigest 1024 (seed ++ bytes4 column ++ bytes4 lane)).toByteArray

/-! ### Choosing the block to mix in -/

/-- Where filling stands: pass, slice, lane, and position within the slice. -/
structure Position where
  pass : Nat
  slice : Nat
  lane : Nat
  index : Nat

/-- The sizes of a memory, in blocks. -/
structure Layout where
  segment : Nat
  lanes : Nat

/-- Blocks in a lane. -/
@[inline] def Layout.lane (m : Layout) : Nat := 4 * m.segment

/-- The layout for a cost: the memory rounded down to four segments in each lane. -/
def Cost.layout (c : Cost) : Layout := ⟨c.memory / (4 * c.lanes), c.lanes⟩

/-- Whether the choice depends on the position alone. -/
def Variant.byPosition (v : Variant) (p : Position) : Bool :=
  match v with
  | .d => false
  | .i => true
  | .id => p.pass = 0 && p.slice < 2

/-- The 128 pseudo-random words for the positions from `128 * group` of a slice. -/
def positionWords (x : Inputs) (m : Layout) (p : Position) (group : Nat) : Array UInt64 :=
  let w := UInt64.ofNat
  let row : Row :=
    { Row.zero with
      w0 := w p.pass, w1 := w p.lane, w2 := w p.slice, w3 := w (m.lanes * m.lane),
      w4 := w x.cost.passes, w5 := w x.variant.code, w6 := w (group + 1) }
  let input := { Block.zero with r0 := row }
  (Block.mix .zero (Block.mix .zero input)).toList.toArray

/-- The number of blocks that may be chosen. -/
def candidates (m : Layout) (p : Position) (sameLane : Bool) : Nat :=
  let finished := if p.pass = 0 then p.slice * m.segment else m.lane - m.segment
  if sameLane then finished + p.index - 1
  else if p.index = 0 then finished - 1 else finished

/-- The place in memory of the block chosen by a pseudo-random word. -/
def chosen (m : Layout) (p : Position) (random : UInt64) : Nat :=
  let lane := if p.pass = 0 && p.slice = 0 then p.lane
    else ((random >>> 32) % UInt64.ofNat m.lanes).toNat
  let count := candidates m p (lane = p.lane)
  let low := random &&& 0xffffffff
  let offset := ((UInt64.ofNat count * ((low * low) >>> 32)) >>> 32).toNat
  let first := if p.pass = 0 || p.slice = 3 then 0 else (p.slice + 1) * m.segment
  lane * m.lane + (first + (count - 1 - offset)) % m.lane

/-! ### Filling -/

/-- Fill one block, given the words for its position. -/
def fillBlock (x : Inputs) (m : Layout) (p : Position) (words : Array UInt64)
    (memory : Array Block) : Array Block :=
  let column := p.slice * m.segment + p.index
  let place := p.lane * m.lane + column
  let before := if column = 0 then place + m.lane - 1 else place - 1
  let previous := memory.getD before .zero
  let random := if x.variant.byPosition p then words.getD (p.index % 128) 0 else previous.r0.w0
  let mixed := previous.mix (memory.getD (chosen m p random) .zero)
  let block := if p.pass = 0 || x.version = .v16 then mixed
    else mixed.xor (memory.getD place .zero)
  memory.setIfInBounds place block

/-- Fill `count` blocks of a segment from a position on. -/
def fillFrom (x : Inputs) (m : Layout) (p : Position) (words : Array UInt64) :
    Nat → Array Block → Array Block
  | 0, memory => memory
  | count + 1, memory =>
    let words := if p.index % 128 = 0 && x.variant.byPosition p then
      positionWords x m p (p.index / 128) else words
    fillFrom x m { p with index := p.index + 1 } words count (fillBlock x m p words memory)

/-- Fill one segment; the first two blocks of a lane are there already on the first pass. -/
def fillSegment (x : Inputs) (m : Layout) (pass slice lane : Nat) (memory : Array Block) :
    Array Block :=
  let done := if pass = 0 && slice = 0 then 2 else 0
  let p : Position := ⟨pass, slice, lane, done⟩
  let words := if x.variant.byPosition p then positionWords x m p 0 else #[]
  fillFrom x m p words (m.segment - done) memory

/-- The memory with the first two blocks of every lane. -/
def firstMemory (x : Inputs) (m : Layout) : Array Block :=
  let seed := firstDigest x
  Nat.fold m.lanes (fun lane _ memory =>
      (memory.setIfInBounds (lane * m.lane) (firstBlock seed 0 lane)).setIfInBounds
        (lane * m.lane + 1) (firstBlock seed 1 lane))
    (Array.replicate (m.lanes * m.lane) Block.zero)

/-- The memory after all passes. -/
def filled (x : Inputs) (m : Layout) : Array Block :=
  Nat.fold x.cost.passes (fun pass _ memory =>
      Nat.fold 4 (fun slice _ memory =>
        Nat.fold m.lanes (fun lane _ memory => fillSegment x m pass slice lane memory) memory)
        memory)
    (firstMemory x m)

/-- The tag: a digest of the last blocks of all lanes, combined. -/
def tag (x : Inputs) : List UInt8 :=
  let m := x.cost.layout
  let memory := filled x m
  let last := Nat.fold m.lanes (fun lane _ b =>
    b.xor (memory.getD (lane * m.lane + m.lane - 1) .zero)) Block.zero
  longDigest x.length last.toBytes

end Turnstile.Digest.Argon2
