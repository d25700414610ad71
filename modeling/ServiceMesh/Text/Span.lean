-- Spans of time in nanoseconds, and how they read.

namespace ServiceMesh

namespace Span

def ofMillis (millis : Nat) : Nat := millis * 1000000

def millis (span : Nat) : Nat := span / 1000000

@[simp] theorem millis_ofMillis (n : Nat) : millis (ofMillis n) = n := by
  unfold millis ofMillis
  omega

end Span

namespace Text

/-- Digits behind a point, without zeros at the end, and no point without digits. -/
def fractionText (places n : Nat) : String :=
  let digits := toString n
  let all := List.replicate (places - digits.length) '0' ++ digits.toList
  let kept := (all.reverse.dropWhile (· = '0')).reverse
  if kept.isEmpty then "" else String.ofList ('.' :: kept)

/-- A span in a unit that has so many decimal places. -/
def unitText (places : Nat) (unit : String) (span : Nat) : String :=
  let whole := Nat.pow 10 places
  toString (span / whole) ++ fractionText places (span % whole) ++ unit

/-- A span in the largest unit that gives it a whole part. -/
def spanText (span : Nat) : String :=
  if 1000000000 ≤ span then unitText 9 "s" span
  else if 1000000 ≤ span then unitText 6 "ms" span
  else if 1000 ≤ span then unitText 3 "µs" span
  else unitText 0 "ns" span

end Text

end ServiceMesh
