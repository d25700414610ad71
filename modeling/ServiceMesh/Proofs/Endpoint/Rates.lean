-- What a limiter lets through in the long run: a burst, and one call in each of its periods,
-- which are whole milliseconds.
import ServiceMesh.Proofs.Endpoint.Quotas
import ServiceMesh.Proofs.Endpoint.Spending

namespace ServiceMesh

namespace Limiter

/-! ## The calls that pass -/

/-- The instants of the calls that pass, of those that ask one after another. -/
def passing (l : Limiter) : List Nat → List Nat
  | [] => []
  | now :: later =>
    match l.check now with
    | .ok l => now :: l.passing later
    | .error _ => l.passing later

/-- The instants are within a stretch of so many nanoseconds. -/
def Within (start length now : Nat) : Prop := start ≤ now ∧ now ≤ start + length

instance (start length now : Nat) : Decidable (Within start length now) :=
  inferInstanceAs (Decidable (_ ∧ _))

theorem passing_cons_ok {l l' : Limiter} {now : Nat} (h : l.check now = .ok l')
    (later : List Nat) : l.passing (now :: later) = now :: l'.passing later := by
  rw [passing, h]

theorem passing_cons_error {l : Limiter} {now wait : Nat} (h : l.check now = .error wait)
    (later : List Nat) : l.passing (now :: later) = l.passing later := by
  rw [passing, h]

variable {quota : Quota} {due? : Option Nat}

/-- A call that passes makes one more period due, though never more than a burst ahead. -/
structure Passes (quota : Quota) (due? : Option Nat) (now due : Nat) : Prop where
  later : now + quota.period ≤ due
  ahead : due ≤ now + quota.period * quota.burst + quota.period
  adds : ∀ before, due? = some before → before + quota.period ≤ due

theorem passes_of_check {l : Limiter} {now : Nat}
    (h : (⟨quota, due?⟩ : Limiter).check now = .ok l) :
    ∃ due, l = ⟨quota, some due⟩ ∧ Passes quota due? now due := by
  rw [check_eq _ now _ rfl] at h
  split at h
  · cases h
  · next allowed =>
    simp only at h allowed
    refine ⟨_, (Except.ok.inj h).symm, ?_, ?_, ?_⟩
    · exact Nat.add_le_add_right (Nat.le_max_right _ _) _
    · omega
    · intro before hb
      rw [hb]
      exact Nat.add_le_add_right (Nat.le_max_left _ _) _

section
variable {start length : Nat}

/-- The calls that pass within a stretch. -/
def passingWithin (start length : Nat) (l : Limiter) (instants : List Nat) : Nat :=
  (l.passing instants).countP (Within start length ·)

theorem passingWithin_cons {l l' : Limiter} {now : Nat} (h : l.check now = .ok l')
    (later : List Nat) : passingWithin start length l (now :: later) =
      passingWithin start length l' later + if Within start length now then 1 else 0 := by
  unfold passingWithin
  rw [passing_cons_ok h, List.countP_cons]
  simp only [decide_eq_true_eq]

theorem passingWithin_refused {l : Limiter} {now wait : Nat} (h : l.check now = .error wait)
    (later : List Nat) : passingWithin start length l (now :: later) =
      passingWithin start length l later := by
  unfold passingWithin
  rw [passing_cons_error h]

/-- Each call that passes in a stretch adds a period to what is due, which is never more than a
burst ahead of its end. -/
theorem due_le (instants : List Nat) (due : Nat) :
    passingWithin start length ⟨quota, some due⟩ instants * quota.period + due ≤
      max due (start + length + quota.period * quota.burst + quota.period) := by
  induction instants generalizing due with
  | nil =>
    change 0 * quota.period + due ≤ _
    omega
  | cons now later ih =>
    cases asked : (⟨quota, some due⟩ : Limiter).check now with
    | error wait =>
      rw [passingWithin_refused asked]
      exact ih due
    | ok l =>
      obtain ⟨next, rfl, passes⟩ := passes_of_check asked
      have more := passes.adds due rfl
      have ahead := passes.ahead
      have rest := ih next
      rw [passingWithin_cons asked, Nat.add_mul]
      -- A call outside the stretch may be due far later, and then no other one is counted.
      by_cases inside : Within start length now
      · rw [if_pos inside]
        have until_end := inside.2
        omega
      · rw [if_neg inside]
        omega

/-- Whatever was called before and whoever asks, no stretch sees more calls pass than a burst, one
more, and as many as periods fit into it. -/
theorem passingWithin_le (h : 0 < quota.period) (instants : List Nat) (due? : Option Nat) :
    passingWithin start length ⟨quota, due?⟩ instants ≤
      quota.burst + 1 + length / quota.period := by
  induction instants generalizing due? with
  | nil => exact Nat.zero_le _
  | cons now later ih =>
    cases asked : (⟨quota, due?⟩ : Limiter).check now with
    | error wait =>
      rw [passingWithin_refused asked]
      exact ih due?
    | ok l =>
      obtain ⟨due, rfl, passes⟩ := passes_of_check asked
      rw [passingWithin_cons asked]
      by_cases inside : Within start length now
      · -- The first call of the stretch: from here on, a period is due after its start.
        rw [if_pos inside]
        have rest : passingWithin start length ⟨quota, some due⟩ later * quota.period + due ≤
            max due _ := due_le later due
        have after := passes.later
        have ahead := passes.ahead
        obtain ⟨from_start, until_end⟩ := inside
        have fits : passingWithin start length ⟨quota, some due⟩ later * quota.period ≤
            length + quota.burst * quota.period := by
          rw [Nat.mul_comm quota.burst]
          omega
        have count := (Nat.le_div_iff_mul_le h).mpr fits
        rw [Nat.add_mul_div_right _ _ h] at count
        omega
      · rw [if_neg inside]
        exact ih (some due)

end

/-- Calls that come a period apart all pass, once no more than one period is due. -/
theorem passing_evenly (hb : 1 ≤ quota.burst) (count start : Nat) (due? : Option Nat)
    (h : ∀ due, due? = some due → due ≤ start + quota.period) :
    (⟨quota, due?⟩ : Limiter).passing (List.range' start count quota.period) =
      List.range' start count quota.period := by
  induction count generalizing start due? with
  | zero => rfl
  | succ count ih =>
    have burst : quota.period ≤ quota.period * quota.burst := Nat.le_mul_of_pos_right _ hb
    obtain ⟨due, here, soon⟩ : ∃ due, due?.getD (start + quota.period) = due ∧
        due ≤ start + quota.period := by
      cases due? with
      | none => exact ⟨_, rfl, Nat.le_refl _⟩
      | some due => exact ⟨due, rfl, h due rfl⟩
    have asked : (⟨quota, due?⟩ : Limiter).check start =
        .ok ⟨quota, some (max due start + quota.period)⟩ := by
      rw [check_eq _ start due here]
      exact if_neg (by simp only; omega)
    rw [List.range'_succ, passing_cons_ok asked, ih]
    intro later hl
    cases hl
    omega

end Limiter

namespace Quota

/-! ## Periods of whole milliseconds -/

/-- The calls that the period gives back in the window: so many of its milliseconds are. -/
def givenBack (attempts windowSeconds : Nat) : Nat :=
  windowSeconds * 1000 / periodMillis attempts windowSeconds

theorem givenBack_of_lt {attempts seconds : Nat} (h : seconds * 1000 < max 1 attempts) :
    givenBack attempts seconds = seconds * 1000 := by
  unfold givenBack periodMillis
  rw [Nat.div_eq_of_lt h]
  exact Nat.div_one _

/-- The milliseconds that the rounded period leaves of the window are used for more calls. -/
theorem givenBack_of_le {attempts seconds : Nat} (h : max 1 attempts ≤ seconds * 1000) :
    givenBack attempts seconds = max 1 attempts +
      seconds * 1000 % max 1 attempts / (seconds * 1000 / max 1 attempts) := by
  have period : 1 ≤ seconds * 1000 / max 1 attempts :=
    Nat.div_pos h (Nat.le_max_left 1 attempts)
  unfold givenBack periodMillis
  rw [Nat.max_eq_left period]
  generalize max 1 attempts = calls at *
  calc seconds * 1000 / (seconds * 1000 / calls)
      = (seconds * 1000 % calls + calls * (seconds * 1000 / calls)) /
          (seconds * 1000 / calls) := by rw [Nat.mod_add_div]
    _ = seconds * 1000 % calls / (seconds * 1000 / calls) + calls :=
      Nat.add_mul_div_right _ _ period
    _ = _ := Nat.add_comm _ _

/-- The rounded period gives back no more calls than there are exactly if what rounding leaves of
the window is less than one more period. -/
theorem givenBack_le_iff (attempts seconds : Nat) :
    givenBack attempts seconds ≤ max 1 attempts ↔
      seconds * 1000 < max 1 attempts ∨
        seconds * 1000 % max 1 attempts < seconds * 1000 / max 1 attempts := by
  rcases Nat.lt_or_ge (seconds * 1000) (max 1 attempts) with less | more
  · rw [givenBack_of_lt less]
    exact iff_of_true (Nat.le_of_lt less) (.inl less)
  · have period : 0 < seconds * 1000 / max 1 attempts :=
      Nat.div_pos more (Nat.le_max_left 1 attempts)
    rw [givenBack_of_le more, or_iff_right (Nat.not_lt.mpr more),
      ← Nat.div_eq_zero_iff_lt period]
    generalize seconds * 1000 % max 1 attempts / (seconds * 1000 / max 1 attempts) = more_calls
    omega

theorem givenBack_lt (attempts seconds : Nat) :
    givenBack attempts seconds < 2 * max 1 attempts := by
  have positive : 0 < max 1 attempts := Nat.le_max_left 1 attempts
  rcases Nat.lt_or_ge (seconds * 1000) (max 1 attempts) with less | more
  · rw [givenBack_of_lt less]
    omega
  · have left := Nat.mod_lt (seconds * 1000) positive
    have less := Nat.div_le_self (seconds * 1000 % max 1 attempts)
      (seconds * 1000 / max 1 attempts)
    rw [givenBack_of_le more]
    omega

theorem periodMillis_pos (attempts seconds : Nat) : 0 < periodMillis attempts seconds :=
  Nat.le_max_right _ 1

/-! ## The rate of a limiter -/

/-- What a limiter lets through in the long run: so many calls in each window of seconds. -/
structure Sustains (quota : Quota) (seconds calls : Nat) : Prop where
  /-- Whatever was called before and whoever asks: a burst, one more, and one in each period. -/
  most : ∀ due? instants start length,
    Limiter.passingWithin start length ⟨quota, due?⟩ instants ≤
      quota.burst + 1 + length / quota.period
  /-- Calls that come evenly, so many in a window, all pass in as many windows as there are. -/
  attained : ∀ start windows,
    let asked := List.range' start (windows * calls) quota.period
    (⟨quota, none⟩ : Limiter).passing asked = asked ∧
      ∀ now ∈ asked, now < start + windows * (seconds * 1000000000)

theorem sustains {attempts seconds : Nat} {quota : Quota}
    (h : perWindow attempts seconds = .ok quota) :
    Sustains quota seconds (givenBack attempts seconds) := by
  have period : quota.period = periodMillis attempts seconds * 1000000 := by
    rw [eq_of_perWindow h]
  have positive : 0 < quota.period := by
    rw [period]
    exact Nat.mul_pos (periodMillis_pos attempts seconds) (by decide)
  have burst : 1 ≤ quota.burst := by
    rw [eq_of_perWindow h]
    exact Nat.le_max_left 1 attempts
  have fits : givenBack attempts seconds * quota.period ≤ seconds * 1000000000 := by
    calc givenBack attempts seconds * quota.period
        = givenBack attempts seconds * periodMillis attempts seconds * 1000000 := by
          rw [period, Nat.mul_assoc]
      _ ≤ seconds * 1000 * 1000000 := Nat.mul_le_mul_right _ (Nat.div_mul_le_self _ _)
      _ = seconds * 1000000000 := by omega
  refine ⟨?_, ?_⟩
  · intro due? instants start length
    exact Limiter.passingWithin_le positive instants due?
  · intro start windows asked
    refine ⟨Limiter.passing_evenly burst _ start none (fun _ none => nomatch none), ?_⟩
    intro now hm
    obtain ⟨i, hi, rfl⟩ := List.mem_range'.mp hm
    have before : quota.period * i < quota.period * (windows * givenBack attempts seconds) :=
      Nat.mul_lt_mul_of_pos_left hi positive
    have all : quota.period * (windows * givenBack attempts seconds) ≤
        windows * (seconds * 1000000000) := by
      rw [Nat.mul_comm, Nat.mul_assoc]
      exact Nat.mul_le_mul_left windows fits
    omega

/-- All calls of a window may come at once. What is given back in a window is no more than them
exactly if rounding the period to milliseconds leaves less than a period of the window; it is
always less than twice as many, and it is the rate at which calls pass in the long run. -/
theorem a_rounded_period_gives_back_less_than_twice_the_calls (attempts seconds : Nat) :
    (givenBack attempts seconds ≤ max 1 attempts ↔
      seconds * 1000 < max 1 attempts ∨
        seconds * 1000 % max 1 attempts < seconds * 1000 / max 1 attempts) ∧
    givenBack attempts seconds < 2 * max 1 attempts ∧
    (∀ quota, perWindow attempts seconds = .ok quota →
      quota.burst = max 1 attempts ∧ Sustains quota seconds (givenBack attempts seconds)) ∧
    (attempts < UInt32.size → seconds * 1000 * 1000000 < UInt64.size →
      ∃ quota, perWindow attempts seconds = .ok quota) := by
  refine ⟨givenBack_le_iff attempts seconds, givenBack_lt attempts seconds, ?_, ?_⟩
  · intro quota h
    refine ⟨?_, sustains h⟩
    rw [eq_of_perWindow h]
  · exact exists_perWindow

/-- Six hundred calls a second come to a thousand. -/
theorem six_hundred_calls_a_second_come_to_a_thousand :
    givenBack 600 1 = 1000 ∧ ¬ givenBack 600 1 ≤ max 1 600 ∧
      ∃ quota, perWindow 600 1 = .ok quota ∧ quota.burst = 600 ∧ Sustains quota 1 1000 := by
  obtain ⟨few, -, built, builds⟩ := a_rounded_period_gives_back_less_than_twice_the_calls 600 1
  obtain ⟨quota, h⟩ := builds (by decide) (by decide)
  obtain ⟨burst, sustains⟩ := built quota h
  exact ⟨by decide, fun le => absurd (few.mp le) (by decide), quota, h, burst, sustains⟩

/-- Of 2001 calls in 4004 seconds, one is given back every two seconds, and 2002 in the window.
So after 2001 calls, a nanosecond apart, the next is told to wait a second: at 2001 calls in the
window, it would be two. -/
theorem a_window_of_2001_calls_gives_back_2002 :
    let quota : Quota := ⟨2001, 2000000000⟩
    perWindow 2001 4004 = .ok quota ∧ givenBack 2001 4004 = 2002 ∧
      ¬ givenBack 2001 4004 ≤ max 1 2001 ∧
      (Limiter.spentBy quota (List.range 2001)).check 2001 = .error 1999997999 ∧
      Limiter.waitSeconds 1999997999 = 1 ∧
      Limiter.waitSeconds (4004 * 1000000000 / 2001 - 2001) = 2 := by
  intro quota
  have brief : Limiter.Brief quota.period (List.range 2001 ++ [2001]) := by
    rw [← List.range_succ]
    refine ⟨List.pairwise_le_range, ?_⟩
    intro a ha b hb
    rw [List.mem_range] at hb
    change b < a + 2000000000
    omega
  have first : (List.range 2001).head? = some 0 := by rw [List.head?_range, if_neg (by decide)]
  have all : quota.burst ≤ (List.range 2001).length := Nat.le_of_eq List.length_range.symm
  have refused := (Limiter.check_spentBy_refuses brief first all).1
  refine ⟨rfl, by decide, by decide, ?_, rfl, rfl⟩
  simpa [quota] using refused

end Quota

end ServiceMesh
