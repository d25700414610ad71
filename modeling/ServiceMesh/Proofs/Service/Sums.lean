-- Sums of the adding service. The sum is worked out in words of fixed width, where the
-- bounds are moved before anything is added, so that no word overflows; and the counts
-- of the service are told by the answers that it gives.
import Mathlib.Algebra.Group.Int.Defs
import Mathlib.Algebra.Ring.Nat
import ServiceMesh.Service.Server

namespace ServiceMesh.Adding

/-! ## Sums in words -/

section Words

variable {bits : Nat}

/-- The sum of two words, as far as it fits one. -/
def plus (a b : BitVec bits) : Except Crash (BitVec bits) :=
  if a.saddOverflow b then .error .sumRange else .ok (a + b)

/-- The difference of two words, as far as it fits one. -/
def minus (a b : BitVec bits) : Except Crash (BitVec bits) :=
  if a.ssubOverflow b then .error (.other "attempt to subtract with overflow") else .ok (a - b)

theorem plus_eq {a b : BitVec bits} {n : Int} (hsum : a.toInt + b.toInt = n)
    (hlow : -2 ^ (bits - 1) ≤ n) (hhigh : n < 2 ^ (bits - 1)) :
    ∃ c, plus a b = .ok c ∧ c.toInt = n := by
  have fits : ¬ a.saddOverflow b = true := by
    unfold BitVec.saddOverflow
    simp only [Bool.or_eq_true, decide_eq_true_eq, hsum]
    omega
  refine ⟨a + b, ?_, ?_⟩
  · unfold plus
    rw [if_neg fits]
  · rw [BitVec.toInt_add_of_not_saddOverflow fits, hsum]

theorem minus_eq {a b : BitVec bits} {n : Int} (hdiff : a.toInt - b.toInt = n)
    (hlow : -2 ^ (bits - 1) ≤ n) (hhigh : n < 2 ^ (bits - 1)) :
    ∃ c, minus a b = .ok c ∧ c.toInt = n := by
  have fits : ¬ a.ssubOverflow b = true := by
    unfold BitVec.ssubOverflow
    simp only [Bool.or_eq_true, decide_eq_true_eq, hdiff]
    omega
  refine ⟨a - b, ?_, ?_⟩
  · unfold minus
    rw [if_neg fits]
  · rw [BitVec.toInt_sub_of_not_ssubOverflow fits, hdiff]

end Words

/-- A number of 64 bits in a word of 128. -/
def widen (a : Int64) : BitVec 128 := a.toBitVec.signExtend 128

theorem toInt_widen (a : Int64) : (widen a).toInt = a.toInt := by
  unfold widen
  rw [BitVec.toInt_signExtend_of_le (by decide), Int64.toInt_toBitVec]

/-- The sum as it is worked out in words: the bounds are moved in wide words, and only what has
been found between them is added. A step that does not fit its word breaks off. -/
def sumInWords (a b : Int64) : Except Crash (Except AddRejection Int64) :=
  if a = 0 ∧ b = 0 then .ok (.error .twoZeroes)
  else do
    let upper ← minus (BitVec.ofInt 128 intMax) (widen b)
    if upper.slt (widen a) then return .error .overflow
    let lower ← minus (BitVec.ofInt 128 intMin) (widen b)
    if (widen a).slt lower then return .error .overflow
    return .ok ⟨⟨← plus a.toBitVec b.toBitVec⟩⟩

/-- No step of a sum overflows, and the words come to what the numbers do. -/
theorem sumInWords_eq (a b : Int64) :
    ∃ answer, sumInWords a b = .ok answer ∧
      answer.map Int64.toInt = sum ⟨a.toInt, b.toInt⟩ := by
  have ha : -2 ^ 63 ≤ a.toInt ∧ a.toInt < 2 ^ 63 := ⟨a.le_toInt, a.toInt_lt⟩
  have hb : -2 ^ 63 ≤ b.toInt ∧ b.toInt < 2 ^ 63 := ⟨b.le_toInt, b.toInt_lt⟩
  have zero_iff : ∀ c : Int64, c = 0 ↔ c.toInt = 0 := by
    intro c
    rw [← Int64.toInt_inj, Int64.toInt_zero]
  have bounds : (BitVec.ofInt 128 intMax).toInt = intMax ∧
      (BitVec.ofInt 128 intMin).toInt = intMin := by decide
  obtain ⟨upper, hupper, hmax⟩ := minus_eq (a := BitVec.ofInt 128 intMax) (b := widen b)
    (n := intMax - b.toInt) (by rw [bounds.1, toInt_widen]) (by unfold intMax; omega)
    (by unfold intMax; omega)
  obtain ⟨lower, hlower, hmin⟩ := minus_eq (a := BitVec.ofInt 128 intMin) (b := widen b)
    (n := intMin - b.toInt) (by rw [bounds.2, toInt_widen]) (by unfold intMin; omega)
    (by unfold intMin; omega)
  unfold sumInWords sum
  simp only [zero_iff, hupper, hlower, bind, Except.bind, pure, Except.pure,
    BitVec.slt_iff_toInt_lt, toInt_widen, hmax, hmin]
  by_cases hzero : a.toInt = 0 ∧ b.toInt = 0
  · rw [if_pos hzero, if_pos hzero]
    exact ⟨_, rfl, rfl⟩
  rw [if_neg hzero, if_neg hzero]
  by_cases habove : intMax - b.toInt < a.toInt
  · rw [if_pos habove, if_pos (Or.inl habove)]
    exact ⟨_, rfl, rfl⟩
  by_cases hbelow : a.toInt < intMin - b.toInt
  · rw [if_neg habove, if_pos hbelow, if_pos (Or.inr hbelow)]
    exact ⟨_, rfl, rfl⟩
  -- Between the bounds the sum has 32 bits, whatever its parts have.
  have between : intMin ≤ a.toInt + b.toInt ∧ a.toInt + b.toInt ≤ intMax := by omega
  obtain ⟨c, hplus, hc⟩ := plus_eq (a := a.toBitVec) (b := b.toBitVec) (n := a.toInt + b.toInt)
    rfl (by unfold intMin at between; omega) (by unfold intMax at between; omega)
  rw [if_neg habove, if_neg hbelow, if_neg (not_or.mpr ⟨habove, hbelow⟩), hplus]
  exact ⟨_, rfl, congrArg Except.ok hc⟩

/-- The numbers that 32 bits hold. -/
def Short (n : Int) : Prop := -2 ^ 31 ≤ n ∧ n ≤ 2 ^ 31 - 1

/-- What two numbers have to be answered: their sum if it is a short one, and they are not both
zero. -/
structure SumsUp (a b : Int) (answer : Operation.sum.Answer) : Prop where
  two_zeroes : answer = .error .twoZeroes ↔ a = 0 ∧ b = 0
  exact : ∀ v, answer = .ok v ↔ ¬ (a = 0 ∧ b = 0) ∧ Short (a + b) ∧ v = a + b
  overflow : answer = .error .overflow ↔ ¬ (a = 0 ∧ b = 0) ∧ ¬ Short (a + b)

theorem sumsUp (a b : Int) : SumsUp a b (sum ⟨a, b⟩) := by
  by_cases hzero : a = 0 ∧ b = 0
  · have hsum : sum ⟨a, b⟩ = .error .twoZeroes := if_pos hzero
    rw [hsum]
    exact ⟨by simp [hzero], by simp [hzero], by simp [hzero]⟩
  by_cases hshort : Short (a + b)
  · have hsum : sum ⟨a, b⟩ = .ok (a + b) := by
      unfold Short at hshort
      unfold sum intMax intMin
      rw [if_neg hzero, if_neg (by simp only; omega)]
    rw [hsum]
    exact ⟨by simp [hzero], by simp [hzero, hshort, eq_comm], by simp [hshort]⟩
  · have hsum : sum ⟨a, b⟩ = .error .overflow := by
      unfold Short at hshort
      unfold sum intMax intMin
      rw [if_neg hzero, if_pos (by simp only; omega)]
    rw [hsum]
    exact ⟨by simp [hzero], by simp [hshort], by simp [hzero, hshort]⟩

/-! ## What is counted -/

def integersSummed : Series := ⟨"integers_summed", []⟩

def charactersConcatenated : Series := ⟨"characters_concatenated", []⟩

/-- A call of the adding service. -/
inductive Call where
  | sum (r : Numbers)
  | concat (r : Parts)
  deriving DecidableEq, Repr

/-- What a call is told. -/
inductive Told where
  | sum (answer : Operation.sum.Answer)
  | concat (answer : Operation.concat.Answer)

namespace Told

/-- The magnitude of a sum; nothing where there is none. -/
def magnitude : Told → Nat
  | .sum (.ok v) => v.natAbs
  | _ => 0

/-- The bytes of a text put together; none where there is none. -/
def size : Told → Nat
  | .concat (.ok text) => text.utf8ByteSize
  | _ => 0

end Told

theorem total_sumNotes (r : Numbers) :
    Note.total integersSummed (sumNotes r) = (Told.sum (sum r)).magnitude ∧
      Note.total charactersConcatenated (sumNotes r) = 0 := by
  unfold sumNotes
  cases sum r <;> exact ⟨rfl, rfl⟩

theorem total_concatNotes (r : Parts) :
    Note.total integersSummed (concatNotes r) = 0 ∧
      Note.total charactersConcatenated (concatNotes r) = (Told.concat (concat r)).size := by
  unfold concatNotes
  cases concat r <;> exact ⟨rfl, rfl⟩

namespace Call

def told : Call → Told
  | .sum r => .sum (Adding.sum r)
  | .concat r => .concat (Adding.concat r)

def notes : Call → List Note
  | .sum r => sumNotes r
  | .concat r => concatNotes r

/-- A call is counted by its success. -/
theorem total_notes (c : Call) :
    Note.total integersSummed c.notes = c.told.magnitude ∧
      Note.total charactersConcatenated c.notes = c.told.size := by
  cases c with
  | sum r => exact total_sumNotes r
  | concat r => exact total_concatNotes r

end Call

section Calls

variable {σ : Type} (setting : Accounts.Setting σ)

/-- A call at the service, behind no layers. -/
def serve : Call → Act (Server σ) (Except Failure Told)
  | .sum r => do return (← Server.perform setting .sum r).map .sum
  | .concat r => do return (← Server.perform setting .concat r).map .concat

def serveAll : List Call → Act (Server σ) (List (Except Failure Told))
  | [] => return []
  | call :: calls => do
    let one ← serve setting call
    return one :: (← serveAll calls)

theorem run_serve (c : Call) (s : Server σ) :
    (serve setting c).run s = ⟨.ok (.ok c.told), s, c.notes ++ []⟩ := by
  cases c <;> rfl

/-- Calls in a row are told what each would be told alone, and leave the server as it was. -/
theorem run_serveAll (calls : List Call) (s : Server σ) :
    ∃ notes, (serveAll setting calls).run s =
        ⟨.ok ((calls.map Call.told).map .ok), s, notes⟩ ∧
      Note.total integersSummed notes = ((calls.map Call.told).map Told.magnitude).sum ∧
      Note.total charactersConcatenated notes = ((calls.map Call.told).map Told.size).sum := by
  induction calls with
  | nil => exact ⟨[], rfl, rfl, rfl⟩
  | cons c calls ih =>
    obtain ⟨notes, hrun, hmagnitude, hsize⟩ := ih
    obtain ⟨hone, hother⟩ := c.total_notes
    refine ⟨(c.notes ++ []) ++ (notes ++ []), ?_, ?_, ?_⟩
    · rw [serveAll, Act.run_bind_ok (run_serve setting c s), Act.run_bind_ok hrun]
      rfl
    · simp [hone, hmagnitude]
    · simp [hother, hsize]

/-- Two numbers are answered their sum if it has 32 bits, and nothing overflows on the way there;
and over any calls the counts grow by what the successful ones come to. -/
theorem sums_are_exact_and_successes_are_counted (s : Server σ) :
    (∀ a b : Int64, ∃ answer notes, sumInWords a b = .ok answer ∧
        (Server.perform setting .sum ⟨a.toInt, b.toInt⟩).run s =
          ⟨.ok (.ok (answer.map Int64.toInt)), s, notes⟩ ∧
        SumsUp a.toInt b.toInt (answer.map Int64.toInt)) ∧
      ∀ calls : List Call, ∃ told notes,
        (serveAll setting calls).run s = ⟨.ok (told.map .ok), s, notes⟩ ∧
        told = calls.map Call.told ∧
        Note.total integersSummed notes = (told.map Told.magnitude).sum ∧
        Note.total charactersConcatenated notes = (told.map Told.size).sum := by
  constructor
  · intro a b
    obtain ⟨answer, hwords, hanswer⟩ := sumInWords_eq a b
    refine ⟨answer, sumNotes ⟨a.toInt, b.toInt⟩, hwords, ?_, ?_⟩
    · rw [hanswer]
      rfl
    · rw [hanswer]
      exact sumsUp a.toInt b.toInt
  · intro calls
    obtain ⟨notes, hrun, hcounts⟩ := run_serveAll setting calls s
    exact ⟨_, notes, hrun, rfl, hcounts⟩

end Calls

end ServiceMesh.Adding
