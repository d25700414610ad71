-- The hash function BLAKE2b without a key, for digests of one to 64 bytes.

namespace ServiceMesh.Digest

def rotateRight64 (x : UInt64) (n : UInt64) : UInt64 := (x >>> n) ||| (x <<< (64 - n))

/-- A number in four bytes, the lowest first. -/
def littleEndian32 (n : Nat) : List UInt8 :=
  [n.toUInt8, (n >>> 8).toUInt8, (n >>> 16).toUInt8, (n >>> 24).toUInt8]

/-- A word in eight bytes, the lowest first. -/
def littleEndian64 (w : UInt64) : List UInt8 :=
  [w.toUInt8, (w >>> 8).toUInt8, (w >>> 16).toUInt8, (w >>> 24).toUInt8, (w >>> 32).toUInt8,
    (w >>> 40).toUInt8, (w >>> 48).toUInt8, (w >>> 56).toUInt8]

/-- The words of some bytes, the lowest byte of each first; a rest is left out. -/
def words64 : List UInt8 → List UInt64
  | a :: b :: c :: d :: e :: f :: g :: h :: rest =>
    (a.toUInt64 ||| b.toUInt64 <<< 8 ||| c.toUInt64 <<< 16 ||| d.toUInt64 <<< 24 |||
      e.toUInt64 <<< 32 ||| f.toUInt64 <<< 40 ||| g.toUInt64 <<< 48 ||| h.toUInt64 <<< 56) ::
      words64 rest
  | _ => []

namespace Blake2b

def iv : Array UInt64 :=
  #[0x6a09e667f3bcc908, 0xbb67ae8584caa73b, 0x3c6ef372fe94f82b, 0xa54ff53a5f1d36f1,
    0x510e527fade682d1, 0x9b05688c2b3e6c1f, 0x1f83d9abfb41bd6b, 0x5be0cd19137e2179]

/-- The order in which each round takes the message words. -/
def schedule : List (List Nat) :=
  [[0, 1, 2, 3, 4, 5, 6, 7, 8, 9, 10, 11, 12, 13, 14, 15],
   [14, 10, 4, 8, 9, 15, 13, 6, 1, 12, 0, 2, 11, 7, 5, 3],
   [11, 8, 12, 0, 5, 2, 15, 13, 10, 14, 3, 6, 7, 1, 9, 4],
   [7, 9, 3, 1, 13, 12, 11, 14, 2, 6, 5, 10, 4, 0, 15, 8],
   [9, 0, 5, 7, 2, 4, 10, 15, 14, 1, 11, 12, 6, 8, 3, 13],
   [2, 12, 6, 10, 0, 11, 8, 3, 4, 13, 7, 5, 15, 14, 1, 9],
   [12, 5, 1, 15, 14, 13, 4, 10, 0, 7, 6, 3, 9, 2, 8, 11],
   [13, 11, 7, 14, 12, 1, 3, 9, 5, 0, 15, 4, 8, 6, 2, 10],
   [6, 15, 14, 9, 11, 3, 0, 8, 12, 2, 13, 7, 1, 4, 10, 5],
   [10, 2, 8, 4, 7, 6, 1, 5, 15, 11, 9, 14, 3, 12, 13, 0],
   [0, 1, 2, 3, 4, 5, 6, 7, 8, 9, 10, 11, 12, 13, 14, 15],
   [14, 10, 4, 8, 9, 15, 13, 6, 1, 12, 0, 2, 11, 7, 5, 3]]

/-- The columns, then the diagonals, that a round mixes. -/
def quarters : List (Nat × Nat × Nat × Nat) :=
  [(0, 4, 8, 12), (1, 5, 9, 13), (2, 6, 10, 14), (3, 7, 11, 15),
   (0, 5, 10, 15), (1, 6, 11, 12), (2, 7, 8, 13), (3, 4, 9, 14)]

/-- Mixes two message words into four words of the state. -/
def mix (v : Array UInt64) (place : Nat × Nat × Nat × Nat) (x y : UInt64) : Array UInt64 :=
  let (i, j, k, l) := place
  let a := v.getD i 0
  let b := v.getD j 0
  let c := v.getD k 0
  let d := v.getD l 0
  let a := a + b + x
  let d := rotateRight64 (d ^^^ a) 32
  let c := c + d
  let b := rotateRight64 (b ^^^ c) 24
  let a := a + b + y
  let d := rotateRight64 (d ^^^ a) 16
  let c := c + d
  let b := rotateRight64 (b ^^^ c) 63
  (((v.setIfInBounds i a).setIfInBounds j b).setIfInBounds k c).setIfInBounds l d

/-- Mixes the message words, two at a time, into the quarters of the state. -/
def mixAll (m : Array UInt64) (v : Array UInt64) :
    List (Nat × Nat × Nat × Nat) → List Nat → Array UInt64
  | place :: places, i :: j :: order =>
    mixAll m (mix v place (m.getD i 0) (m.getD j 0)) places order
  | _, _ => v

/-- Takes in one block of sixteen words, the last of `count` bytes so far. -/
def absorb (h : Array UInt64) (block : List UInt64) (count : Nat) (final : Bool) : Array UInt64 :=
  let m := block.toArray
  let v := h ++ iv
  -- The count goes in as one word: no message here has 2 ^ 64 bytes.
  let v := v.setIfInBounds 12 (v.getD 12 0 ^^^ count.toUInt64)
  let v := if final then v.setIfInBounds 14 (~~~(v.getD 14 0)) else v
  let v := schedule.foldl (fun v order => mixAll m v quarters order) v
  Array.ofFn fun i : Fin 8 => h.getD i 0 ^^^ v.getD i 0 ^^^ v.getD (i + 8) 0

/-- Takes in the message block by block; the last block is filled up with zeros. -/
def absorbAll (h : Array UInt64) (message : List UInt8) (count : Nat) : Nat → Array UInt64
  | 0 => h
  | blocks + 1 =>
    let piece := message.take 128
    let count := count + piece.length
    let full := piece ++ List.replicate (128 - piece.length) 0
    absorbAll (absorb h (words64 full) count (blocks = 0)) (message.drop 128) count blocks

def hash (size : Nat) (message : List UInt8) : List UInt8 :=
  -- The first word holds the digest's length, no key, and no tree of hashes.
  let h := iv.setIfInBounds 0 (iv.getD 0 0 ^^^ 0x01010000 ^^^ size.toUInt64)
  let blocks := max 1 ((message.length + 127) / 128)
  ((absorbAll h message 0 blocks).toList.flatMap littleEndian64).take size

end Blake2b
end ServiceMesh.Digest
