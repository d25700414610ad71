-- Natural numbers written in decimal are read back, in whatever range they fit.
import ServiceMesh.Text.Integer

namespace ServiceMesh.Text

variable {r : IntegerRange} {positive : Bool}

/-- Digits that have been read are read on from there. -/
theorem readDigits_append {n m : Int} {cs : List Char} (ds : List Char)
    (h : readDigits r positive n cs = .ok m) :
    readDigits r positive n (cs ++ ds) = readDigits r positive m ds := by
  fun_induction readDigits r positive n cs with
  | case1 =>
    cases h
    rfl
  | case2 => simp at h
  | case3 n c cs d hd next hnext ih =>
    rw [List.cons_append, readDigits, hd]
    simp only
    rw [if_pos hnext]
    exact ih h
  | case4 => simp at h

theorem digitValue?_digitChar : ∀ d < 10, digitValue? (Nat.digitChar d) = some d := by
  decide

/-- The digit that comes last is added to ten times what is in front of it. -/
theorem readDigits_digitChar {n : Int} {d : Nat} (hd : d < 10)
    (h : r.contains (n * 10 + d) = true) :
    readDigits r true n [Nat.digitChar d] = .ok (n * 10 + d) := by
  unfold readDigits
  rw [digitValue?_digitChar d hd]
  simp only [if_true, if_pos h]
  rfl

theorem contains_unsigned {bits n : Nat} (h : n < 1 <<< bits) :
    (IntegerRange.unsigned bits).contains n = true := by
  have high : (IntegerRange.unsigned bits).high = (1 <<< bits : Nat) - 1 := rfl
  refine contains_iff.mpr ⟨Int.natCast_nonneg n, ?_⟩
  omega

theorem readDigits_toDigits {bits n : Nat} (h : n < 1 <<< bits) :
    readDigits (.unsigned bits) true 0 (Nat.toDigits 10 n) = .ok n := by
  induction n using Nat.strongRecOn with
  | ind n ih =>
    by_cases hn : n < 10
    · have hsum : (0 : Int) * 10 + n = n := by omega
      have fits := contains_unsigned h
      rw [← hsum] at fits
      rw [Nat.toDigits_of_lt_base hn, readDigits_digitChar hn fits, hsum]
    · have hfront := ih (n / 10) (by omega) (by omega)
      have hsum : ((n / 10 : Nat) : Int) * 10 + (n % 10 : Nat) = n := by omega
      have fits := contains_unsigned h
      rw [← hsum] at fits
      rw [Nat.toDigits_of_base_le (by decide) (Nat.le_of_not_lt hn), readDigits_append _ hfront,
        readDigits_digitChar (Nat.mod_lt n (by decide)) fits, hsum]

/-- A number has no sign in front. -/
theorem toDigits_cons (n : Nat) :
    ∃ c cs, Nat.toDigits 10 n = c :: cs ∧ c ≠ '+' ∧ c ≠ '-' := by
  cases hn : Nat.toDigits 10 n with
  | nil => exact absurd hn Nat.toDigits_ne_nil
  | cons c cs =>
    have front : c ∈ Nat.toDigits 10 n := by
      rw [hn]
      exact List.mem_cons_self
    have digit : c.isDigit = true := Nat.isDigit_of_mem_toDigits (by decide) (by decide) front
    refine ⟨c, cs, rfl, ?_, ?_⟩
    all_goals
      rintro rfl
      exact absurd digit (by decide)

theorem readInteger_toString {bits n : Nat} (h : n < 1 <<< bits) :
    readInteger (.unsigned bits) (toString n) = .ok n := by
  obtain ⟨c, cs, hcs, hplus, hminus⟩ := toDigits_cons n
  have hread := readDigits_toDigits h
  rw [hcs] at hread
  unfold readInteger
  rw [Nat.toString_eq_repr, Nat.toList_repr, hcs]
  simp only [beq_iff_eq, hplus, hminus, Bool.and_eq_true, or_self, and_false, Bool.or_eq_true,
    false_and, if_false]
  exact hread

/-- A number that fits the bits is read back from its decimal text. -/
theorem readNatural_toString {bits n : Nat} (h : n < 1 <<< bits) :
    readNatural bits (toString n) = .ok n := by
  unfold readNatural
  rw [readInteger_toString h]
  rfl

end ServiceMesh.Text
