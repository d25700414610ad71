-- Whole numbers written in decimal, read into a bounded range.

namespace ServiceMesh.Text

/-- A range of whole numbers that a text may stand for. A sign `-` is known only where
negative numbers are. -/
structure IntegerRange where
  low : Int
  high : Int

namespace IntegerRange

def unsigned (bits : Nat) : IntegerRange := ⟨0, (1 <<< bits : Nat) - (1 : Int)⟩

def signed (bits : Nat) : IntegerRange :=
  ⟨-(1 <<< (bits - 1) : Nat), (1 <<< (bits - 1) : Nat) - (1 : Int)⟩

def contains (r : IntegerRange) (n : Int) : Bool := r.low ≤ n && n ≤ r.high

end IntegerRange

theorem contains_iff {r : IntegerRange} {n : Int} :
    r.contains n = true ↔ r.low ≤ n ∧ n ≤ r.high := by
  simp [IntegerRange.contains]

inductive IntegerError where
  | empty
  | invalidDigit
  | tooLarge
  | tooSmall
  deriving DecidableEq, Repr

def IntegerError.message : IntegerError → String
  | .empty => "cannot parse integer from empty string"
  | .invalidDigit => "invalid digit found in string"
  | .tooLarge => "number too large to fit in target type"
  | .tooSmall => "number too small to fit in target type"

def digitValue? (c : Char) : Option Nat :=
  if '0' ≤ c ∧ c ≤ '9' then some (c.toNat - 48) else none

/-- Reads digits onto `n`, away from zero when `positive` is false. The first fault wins:
a character that is no digit, or the digit that leaves the range. -/
def readDigits (r : IntegerRange) (positive : Bool) (n : Int) : List Char → Except IntegerError Int
  | [] => .ok n
  | c :: rest =>
    match digitValue? c with
    | none => .error .invalidDigit
    | some d =>
      let next : Int := if positive then n * 10 + d else n * 10 - d
      if r.contains next then readDigits r positive next rest
      else .error (if positive then .tooLarge else .tooSmall)

/-- Reads a whole number: an optional sign, then digits only. -/
def readInteger (r : IntegerRange) (s : String) : Except IntegerError Int :=
  match s.toList with
  | [] => .error .empty
  | c :: rest =>
    if rest.isEmpty && (c == '+' || c == '-') then .error .invalidDigit
    else if c == '+' then readDigits r true 0 rest
    else if c == '-' && r.low < 0 then readDigits r false 0 rest
    else readDigits r true 0 (c :: rest)

/-- A port number or a length: a natural number of so many bits. -/
def readNatural (bits : Nat) (s : String) : Except IntegerError Nat :=
  (readInteger (.unsigned bits) s).map Int.toNat

/-- Whatever is read lies in the range. -/
theorem readDigits_contains {r : IntegerRange} {positive : Bool} {n m : Int} {cs : List Char}
    (hn : r.contains n = true) (h : readDigits r positive n cs = .ok m) : r.contains m = true := by
  fun_induction readDigits r positive n cs with
  | case1 => cases h; exact hn
  | case2 => simp at h
  | case3 _ _ _ _ _ _ hc ih => exact ih hc h
  | case4 => simp at h

end ServiceMesh.Text
