-- The shortest decimal that reads back as a given binary fraction: among all decimals
-- that round to it, one with the fewest digits, and of those the nearest.

namespace ServiceMesh.Decimal

/-- The number `significand · 2 ^ exponent`. -/
structure Binary where
  significand : Nat
  exponent : Int
  deriving DecidableEq, Repr

/-- The number `digits · 10 ^ exponent`. -/
structure Scientific where
  digits : Nat
  exponent : Int
  deriving DecidableEq, Repr

def Binary.ofFloat (x : Float) : Bool × Binary :=
  let bits := x.toBits.toNat
  let fraction : Nat := bits % 1 <<< 52
  let biased : Nat := bits / 1 <<< 52 % 1 <<< 11
  (bits / 1 <<< 63 == 1,
    if biased = 0 then ⟨fraction, -1074⟩ else ⟨fraction + 1 <<< 52, (biased : Int) - 1075⟩)

namespace Binary

/-- The quarter steps below and above `4 · significand` at which rounding leaves the number.
The step below is half as long at a power of two. -/
def bounds (b : Binary) : Nat × Nat :=
  let quarters := 4 * b.significand
  let below := if b.significand = 1 <<< 52 && b.exponent > -1074 then 1 else 2
  (quarters - below, quarters + 2)

/-- Numerator and denominator of a power. -/
def ratio (base : Nat) (e : Int) : Nat × Nat :=
  if 0 ≤ e then (base.pow e.toNat, 1) else (1, base.pow (-e).toNat)

/-- Whether `candidate · 10 ^ k` rounds to the number: the ends count for an even
significand. -/
def roundsFrom (b : Binary) (k : Int) (candidate : Nat) : Bool :=
  let (n, d) := ratio 2 (b.exponent - 2)
  let (p, r) := ratio 10 k
  let (lo, hi) := b.bounds
  let y := candidate * p * d
  if b.significand % 2 = 0 then lo * n * r ≤ y && y ≤ hi * n * r
  else lo * n * r < y && y < hi * n * r

/-- The multiple of `10 ^ k` that rounds to the number, the nearer of two. -/
def onGrid (b : Binary) (k : Int) : Option Scientific :=
  let (n, d) := ratio 2 b.exponent
  let (p, r) := ratio 10 k
  -- The number is `x / unit` steps of the grid, so its neighbours are the quotient and one more.
  let x := b.significand * n * r
  let unit := d * p
  let below := x / unit
  let nearBelow := 2 * (x % unit) < unit || (2 * (x % unit) == unit && below % 2 == 0)
  let first := if nearBelow then below else below + 1
  let second := if nearBelow then below + 1 else below
  if first ≠ 0 && b.roundsFrom k first then some ⟨first, k⟩
  else if second ≠ 0 && b.roundsFrom k second then some ⟨second, k⟩
  else none

/-- Tries coarse grids before fine ones. -/
def shortestFrom (b : Binary) (k : Int) : Nat → Scientific
  | 0 => ⟨0, 0⟩
  | tries + 1 =>
    match b.onGrid k with
    | some found => found
    | none => shortestFrom b (k - 1) tries

def shortest (b : Binary) : Scientific :=
  -- From above the largest number to below the smallest, one power at a time.
  b.shortestFrom 309 660

end Binary

def digitChars (n : Nat) : List Char := Nat.toDigits 10 n

/-- How a float is written: positionally while the point falls within these digits, else
with an exponent. -/
structure Layout where
  /-- Digits before the point up to which a number stays positional. -/
  maxWhole : Int
  /-- Zeros after the point up to which a number stays positional. -/
  maxZeros : Int
  /-- Least number of exponent digits. -/
  exponentWidth : Nat
  /-- Whether a non-negative exponent carries `+`. -/
  plusSign : Bool

/-- The digits of an exponent, with sign and leading zeros. -/
def Layout.exponentChars (l : Layout) (e : Int) : List Char :=
  let ds := digitChars e.natAbs
  let sign := if e < 0 then ['-'] else if l.plusSign then ['+'] else []
  sign ++ List.replicate (l.exponentWidth - ds.length) '0' ++ ds

/-- Lays out `digits · 10 ^ exponent`. A positional number always has a fraction. -/
def Layout.write (l : Layout) (s : Scientific) : List Char :=
  let ds := digitChars s.digits
  let point : Int := ds.length + s.exponent
  if 0 ≤ s.exponent && point ≤ l.maxWhole then
    ds ++ List.replicate s.exponent.toNat '0' ++ ['.', '0']
  else if 0 < point && point ≤ l.maxWhole then
    ds.take point.toNat ++ '.' :: ds.drop point.toNat
  else if point ≤ 0 && -point ≤ l.maxZeros then
    ['0', '.'] ++ List.replicate (-point).toNat '0' ++ ds
  else
    let tail := ds.drop 1
    ds.take 1 ++ (if tail.isEmpty then [] else '.' :: tail) ++ 'e' :: l.exponentChars (point - 1)

def Layout.float (l : Layout) (x : Float) : String :=
  let (negative, size) := Binary.ofFloat x
  let body := if size.significand = 0 then ['0', '.', '0'] else l.write size.shortest
  String.ofList (if negative then '-' :: body else body)

end ServiceMesh.Decimal
