-- The quotas that a number of calls in a window of seconds comes to.
import ServiceMesh.Endpoint.Limiter

namespace ServiceMesh.Quota

theorem eq_of_perWindow {n seconds : Nat} {quota : Quota} (h : perWindow n seconds = .ok quota) :
    quota = ⟨max 1 n, periodMillis n seconds * 1000000⟩ := by
  unfold perWindow at h
  split at h
  · cases h
  · simp only at h
    split at h
    · cases h
    · cases h
      rfl

theorem burst_of_perWindow {n seconds : Nat} {quota : Quota} (hn : 1 ≤ n)
    (h : perWindow n seconds = .ok quota) : quota.burst = n := by
  rw [eq_of_perWindow h]
  exact Nat.max_eq_right hn

/-- All calls together take the window, or, where they come too fast for that, a millisecond
each. -/
theorem periodMillis_mul_le (n seconds : Nat) :
    periodMillis n seconds * max 1 n ≤ max (seconds * 1000) (max 1 n) := by
  unfold periodMillis
  rcases Nat.le_total (seconds * 1000 / max 1 n) 1 with less | more
  · rw [Nat.max_eq_right less, Nat.one_mul]
    exact Nat.le_max_right _ _
  · rw [Nat.max_eq_left more]
    exact Nat.le_trans (Nat.div_mul_le_self _ _) (Nat.le_max_left _ _)

/-- Every number of 32 bits makes a quota, in every window of up to 584 years. -/
theorem exists_perWindow {n seconds : Nat} (hn : n < UInt32.size)
    (hs : seconds * 1000 * 1000000 < UInt64.size) : ∃ quota, perWindow n seconds = .ok quota := by
  have calls : max 1 n * 1000000 < UInt64.size :=
    Nat.lt_of_le_of_lt
      (Nat.mul_le_mul_right 1000000 (Nat.max_le.mpr ⟨by decide, Nat.le_of_lt hn⟩)) (by decide)
  have fits : ¬ UInt64.size ≤ periodMillis n seconds * 1000000 * max 1 n := by
    rw [Nat.mul_right_comm, Nat.not_le]
    refine Nat.lt_of_le_of_lt (Nat.mul_le_mul_right 1000000 (periodMillis_mul_le n seconds)) ?_
    rcases Nat.le_total (seconds * 1000) (max 1 n) with less | more
    · rw [Nat.max_eq_right less]
      exact calls
    · rw [Nat.max_eq_left more]
      exact hs
  have window : ¬ UInt64.size ≤ seconds * 1000 := by
    have le : seconds * 1000 ≤ seconds * 1000 * 1000000 := Nat.le_mul_of_pos_right _ (by decide)
    exact Nat.not_le.mpr (Nat.lt_of_le_of_lt le hs)
  unfold perWindow
  rw [if_neg window]
  simp only
  rw [if_neg fits]
  exact ⟨_, rfl⟩

/-- Every rate of 32 bits is a number of calls per second. -/
theorem exists_perSecond {rate : Nat} (hr : rate < UInt32.size) :
    ∃ quota, perWindow rate 1 = .ok quota := by
  have second : 1 * 1000 * 1000000 < UInt64.size := by decide
  exact exists_perWindow hr second

end ServiceMesh.Quota
