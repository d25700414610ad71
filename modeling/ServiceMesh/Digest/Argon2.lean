-- The password hash Argon2 in its three kinds and two versions. Memory is a grid of lanes
-- and columns of 1024-byte blocks; each block is made from the one before it and from one that
-- the password (or, for the first half of the first pass of `id`, only the position) picks.
import ServiceMesh.Digest.Blake2b

namespace ServiceMesh.Digest

namespace Argon2

/-! ## Blocks -/

/-- Sixteen words: an eighth of a block. -/
structure Row where
  w0 : UInt64
  w1 : UInt64
  w2 : UInt64
  w3 : UInt64
  w4 : UInt64
  w5 : UInt64
  w6 : UInt64
  w7 : UInt64
  w8 : UInt64
  w9 : UInt64
  w10 : UInt64
  w11 : UInt64
  w12 : UInt64
  w13 : UInt64
  w14 : UInt64
  w15 : UInt64
  deriving Inhabited

/-- 128 words. -/
structure Block where
  r0 : Row
  r1 : Row
  r2 : Row
  r3 : Row
  r4 : Row
  r5 : Row
  r6 : Row
  r7 : Row
  deriving Inhabited

structure Quarter where
  a : UInt64
  b : UInt64
  c : UInt64
  d : UInt64

def low32 (x : UInt64) : UInt64 := x &&& 0xffffffff

/-- Sum with twice the product of the lower halves. -/
@[inline] def hardAdd (x y : UInt64) : UInt64 := x + y + 2 * (low32 x * low32 y)

@[inline] def mix (a b c d : UInt64) : Quarter :=
  let a := hardAdd a b
  let d := rotateRight64 (d ^^^ a) 32
  let c := hardAdd c d
  let b := rotateRight64 (b ^^^ c) 24
  let a := hardAdd a b
  let d := rotateRight64 (d ^^^ a) 16
  let c := hardAdd c d
  let b := rotateRight64 (b ^^^ c) 63
  ⟨a, b, c, d⟩

/-- Mixes columns, then diagonals, of a row seen as a square. -/
def Row.permute (r : Row) : Row :=
  let ⟨w0, w1, w2, w3, w4, w5, w6, w7, w8, w9, w10, w11, w12, w13, w14, w15⟩ := r
  let ⟨w0, w4, w8, w12⟩ := mix w0 w4 w8 w12
  let ⟨w1, w5, w9, w13⟩ := mix w1 w5 w9 w13
  let ⟨w2, w6, w10, w14⟩ := mix w2 w6 w10 w14
  let ⟨w3, w7, w11, w15⟩ := mix w3 w7 w11 w15
  let ⟨w0, w5, w10, w15⟩ := mix w0 w5 w10 w15
  let ⟨w1, w6, w11, w12⟩ := mix w1 w6 w11 w12
  let ⟨w2, w7, w8, w13⟩ := mix w2 w7 w8 w13
  let ⟨w3, w4, w9, w14⟩ := mix w3 w4 w9 w14
  ⟨w0, w1, w2, w3, w4, w5, w6, w7, w8, w9, w10, w11, w12, w13, w14, w15⟩

def Row.xor (x y : Row) : Row :=
  ⟨x.w0 ^^^ y.w0, x.w1 ^^^ y.w1, x.w2 ^^^ y.w2, x.w3 ^^^ y.w3, x.w4 ^^^ y.w4, x.w5 ^^^ y.w5,
    x.w6 ^^^ y.w6, x.w7 ^^^ y.w7, x.w8 ^^^ y.w8, x.w9 ^^^ y.w9, x.w10 ^^^ y.w10, x.w11 ^^^
    y.w11, x.w12 ^^^ y.w12, x.w13 ^^^ y.w13, x.w14 ^^^ y.w14, x.w15 ^^^ y.w15⟩

def Row.words (r : Row) : List UInt64 :=
  [r.w0, r.w1, r.w2, r.w3, r.w4, r.w5, r.w6, r.w7, r.w8, r.w9, r.w10, r.w11, r.w12, r.w13,
    r.w14, r.w15]

def Block.map (f : Row → Row) (b : Block) : Block :=
  ⟨f b.r0, f b.r1, f b.r2, f b.r3, f b.r4, f b.r5, f b.r6, f b.r7⟩

def Block.xor (x y : Block) : Block :=
  ⟨x.r0.xor y.r0, x.r1.xor y.r1, x.r2.xor y.r2, x.r3.xor y.r3, x.r4.xor y.r4, x.r5.xor y.r5,
    x.r6.xor y.r6, x.r7.xor y.r7⟩

/-- Exchanges rows and columns of the block seen as eight by eight pairs of words. -/
def Block.transpose (b : Block) : Block where
  r0 :=
    ⟨b.r0.w0, b.r0.w1, b.r1.w0, b.r1.w1, b.r2.w0, b.r2.w1, b.r3.w0, b.r3.w1, b.r4.w0, b.r4.w1,
      b.r5.w0, b.r5.w1, b.r6.w0, b.r6.w1, b.r7.w0, b.r7.w1⟩
  r1 :=
    ⟨b.r0.w2, b.r0.w3, b.r1.w2, b.r1.w3, b.r2.w2, b.r2.w3, b.r3.w2, b.r3.w3, b.r4.w2, b.r4.w3,
      b.r5.w2, b.r5.w3, b.r6.w2, b.r6.w3, b.r7.w2, b.r7.w3⟩
  r2 :=
    ⟨b.r0.w4, b.r0.w5, b.r1.w4, b.r1.w5, b.r2.w4, b.r2.w5, b.r3.w4, b.r3.w5, b.r4.w4, b.r4.w5,
      b.r5.w4, b.r5.w5, b.r6.w4, b.r6.w5, b.r7.w4, b.r7.w5⟩
  r3 :=
    ⟨b.r0.w6, b.r0.w7, b.r1.w6, b.r1.w7, b.r2.w6, b.r2.w7, b.r3.w6, b.r3.w7, b.r4.w6, b.r4.w7,
      b.r5.w6, b.r5.w7, b.r6.w6, b.r6.w7, b.r7.w6, b.r7.w7⟩
  r4 :=
    ⟨b.r0.w8, b.r0.w9, b.r1.w8, b.r1.w9, b.r2.w8, b.r2.w9, b.r3.w8, b.r3.w9, b.r4.w8, b.r4.w9,
      b.r5.w8, b.r5.w9, b.r6.w8, b.r6.w9, b.r7.w8, b.r7.w9⟩
  r5 :=
    ⟨b.r0.w10, b.r0.w11, b.r1.w10, b.r1.w11, b.r2.w10, b.r2.w11, b.r3.w10, b.r3.w11, b.r4.w10,
      b.r4.w11, b.r5.w10, b.r5.w11, b.r6.w10, b.r6.w11, b.r7.w10, b.r7.w11⟩
  r6 :=
    ⟨b.r0.w12, b.r0.w13, b.r1.w12, b.r1.w13, b.r2.w12, b.r2.w13, b.r3.w12, b.r3.w13, b.r4.w12,
      b.r4.w13, b.r5.w12, b.r5.w13, b.r6.w12, b.r6.w13, b.r7.w12, b.r7.w13⟩
  r7 :=
    ⟨b.r0.w14, b.r0.w15, b.r1.w14, b.r1.w15, b.r2.w14, b.r2.w15, b.r3.w14, b.r3.w15, b.r4.w14,
      b.r4.w15, b.r5.w14, b.r5.w15, b.r6.w14, b.r6.w15, b.r7.w14, b.r7.w15⟩

/-- The compression function: mixes rows, then columns, of the sum of two blocks. -/
def compress (x y : Block) : Block :=
  let sum := x.xor y
  ((sum.map Row.permute).transpose.map Row.permute).transpose.xor sum

def Block.words (b : Block) : List UInt64 :=
  [b.r0, b.r1, b.r2, b.r3, b.r4, b.r5, b.r6, b.r7].flatMap Row.words

def Block.bytes (b : Block) : List UInt8 := b.words.flatMap littleEndian64

def Row.ofWords (ws : List UInt64) : Row :=
  let a := ws.toArray
  ⟨a.getD 0 0, a.getD 1 0, a.getD 2 0, a.getD 3 0, a.getD 4 0, a.getD 5 0, a.getD 6 0, a.getD 7
    0, a.getD 8 0, a.getD 9 0, a.getD 10 0, a.getD 11 0, a.getD 12 0, a.getD 13 0, a.getD 14 0,
    a.getD 15 0⟩

def Block.ofWords (ws : List UInt64) : Block :=
  let row (i : Nat) := Row.ofWords ((ws.drop (16 * i)).take 16)
  ⟨row 0, row 1, row 2, row 3, row 4, row 5, row 6, row 7⟩

def Block.word (b : Block) (i : Nat) : UInt64 :=
  let row := match i / 16 with
    | 0 => b.r0 | 1 => b.r1 | 2 => b.r2 | 3 => b.r3
    | 4 => b.r4 | 5 => b.r5 | 6 => b.r6 | _ => b.r7
  row.words.getD (i % 16) 0

def zeroBlock : Block := Block.ofWords []

/-! ## Hashes of any length -/

/-- 32 bytes of each of `n` digests, each of the one before it, then what is left of the
length as a last digest. -/
def chain (size : Nat) (v : List UInt8) : Nat → List UInt8
  | 0 => Blake2b.hash size v
  | n + 1 =>
    let v := Blake2b.hash 64 v
    v.take 32 ++ chain (size - 32) v n

def longHash (size : Nat) (message : List UInt8) : List UInt8 :=
  let input := littleEndian32 size ++ message
  if size ≤ 64 then Blake2b.hash size input
  else chain size input ((size + 31) / 32 - 2)

/-! ## Parameters -/

inductive Kind where
  | d
  | i
  | id
  deriving DecidableEq, Repr

def Kind.number : Kind → Nat
  | .d => 0
  | .i => 1
  | .id => 2

inductive Version where
  | v10
  | v13
  deriving DecidableEq, Repr

def Version.number : Version → Nat
  | .v10 => 0x10
  | .v13 => 0x13

/-- Memory in blocks, passes, lanes and digest length, with data bound into the hash. -/
structure Params where
  memory : Nat
  passes : Nat
  lanes : Nat
  outputLength : Nat
  data : List UInt8 := []
  deriving DecidableEq, Repr

def Params.valid (p : Params) : Bool :=
  8 ≤ p.memory && 1 ≤ p.passes && 1 ≤ p.lanes && p.lanes < 1 <<< 24 && 8 * p.lanes ≤ p.memory &&
    4 ≤ p.outputLength

/-- Columns of a quarter of a lane. -/
def Params.segment (p : Params) : Nat := p.memory / (4 * p.lanes)

def Params.columns (p : Params) : Nat := 4 * p.segment

/-! ## Filling the memory -/

/-- Where a block stands: pass, quarter, lane, index inside the segment. -/
structure Place where
  pass : Nat
  slice : Nat
  lane : Nat
  index : Nat

/-- Whether a block's reference depends on its position only. -/
def independent (kind : Kind) (pass slice : Nat) : Bool :=
  match kind with
  | .d => false
  | .i => true
  | .id => pass = 0 && slice < 2

/-- 128 pseudo-random words for positions `128 · number` to `128 · number + 127`. -/
def addresses (kind : Kind) (p : Params) (at_ : Place) (number : Nat) : Block :=
  let input :=
    [at_.pass, at_.lane, at_.slice, p.columns * p.lanes, p.passes, kind.number, number + 1]
  compress zeroBlock (compress zeroBlock (Block.ofWords (input.map Nat.toUInt64)))

/-- The block that a pseudo-random word picks for a place: its number in memory. -/
def reference (p : Params) (at_ : Place) (word : UInt64) : Nat :=
  -- The low half picks a block among those allowed, the high half its lane.
  let j1 := word.toNat % UInt32.size
  let j2 := word.toNat / UInt32.size
  let lane := if at_.pass = 0 && at_.slice = 0 then at_.lane else j2 % p.lanes
  -- Quarters that are whole by now: the ones before in the first pass, later the three others.
  let before := if at_.pass = 0 then at_.slice * p.segment else p.columns - p.segment
  let size :=
    if lane = at_.lane then before + at_.index - 1
    else if at_.index = 0 then before - 1 else before
  -- Squaring favours late blocks.
  let x := j1 * j1 / UInt32.size
  let offset := size - 1 - size * x / UInt32.size
  let first := if at_.pass = 0 then 0 else (at_.slice + 1) % 4 * p.segment
  lane * p.columns + (first + offset) % p.columns

/-- Makes the blocks of a segment from index `i` on; `words` are the addresses in use. -/
def fillSegment (kind : Kind) (version : Version) (p : Params) (at_ : Place) (words : Block)
    (memory : Array Block) : Nat → Array Block
  | 0 => memory
  | n + 1 =>
    let column := at_.slice * p.segment + at_.index
    let here := at_.lane * p.columns + column
    let previous := at_.lane * p.columns + (column + p.columns - 1) % p.columns
    let before := memory.getD previous zeroBlock
    -- The word that picks the reference: from a counter, or from the block before.
    let apart := independent kind at_.pass at_.slice
    let words :=
      if apart && at_.index % 128 = 0 then addresses kind p at_ (at_.index / 128) else words
    let word := if apart then words.word (at_.index % 128) else before.r0.w0
    let block := compress before (memory.getD (reference p at_ word) zeroBlock)
    -- A later pass adds to what stands there, in the newer version.
    let block :=
      if at_.pass = 0 || version = .v10 then block else block.xor (memory.getD here zeroBlock)
    fillSegment kind version p { at_ with index := at_.index + 1 } words
      (memory.setIfInBounds here block) n

def fillSlice (kind : Kind) (version : Version) (p : Params) (pass slice : Nat)
    (memory : Array Block) : Array Block :=
  (List.range p.lanes).foldl (fun memory lane =>
    -- The first two columns stand already when the first quarter is filled.
    let skipped := if pass = 0 && slice = 0 then 2 else 0
    let at_ : Place := ⟨pass, slice, lane, skipped⟩
    let words := if independent kind pass slice then addresses kind p at_ 0 else zeroBlock
    fillSegment kind version p at_ words memory (p.segment - skipped)) memory

def firstBlocks (p : Params) (seed : List UInt8) : Array Block :=
  (List.range p.lanes).foldl (fun memory lane =>
    [0, 1].foldl (fun memory column =>
      let bytes := longHash 1024 (seed ++ littleEndian32 column ++ littleEndian32 lane)
      memory.setIfInBounds (lane * p.columns + column) (Block.ofWords (words64 bytes))) memory)
    (Array.replicate (p.columns * p.lanes) zeroBlock)

def seed (kind : Kind) (version : Version) (p : Params) (password salt : List UInt8) : List UInt8 :=
  let numbers := [p.lanes, p.outputLength, p.memory, p.passes, version.number, kind.number]
  let sized (bytes : List UInt8) := littleEndian32 bytes.length ++ bytes
  Blake2b.hash 64
    (numbers.flatMap littleEndian32 ++ sized password ++ sized salt ++ sized [] ++ sized p.data)

def hash (kind : Kind) (version : Version) (p : Params) (password salt : List UInt8) : List UInt8 :=
  let memory := firstBlocks p (seed kind version p password salt)
  let memory := (List.range p.passes).foldl (fun memory pass =>
    (List.range 4).foldl (fun memory slice => fillSlice kind version p pass slice memory) memory)
    memory
  -- The digest is taken of the sum of the last column.
  let last := (List.range p.lanes).foldl (fun sum lane =>
    sum.xor (memory.getD (lane * p.columns + p.columns - 1) zeroBlock)) zeroBlock
  longHash p.outputLength last.bytes

end Argon2
end ServiceMesh.Digest
