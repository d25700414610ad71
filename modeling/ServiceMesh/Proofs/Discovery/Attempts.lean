-- A call that is tried again, against whatever its attempts meet: refusals of the
-- balancer, endpoints that succeed or fail after some time, endpoints that hang.
import Mathlib.Data.ENat.Basic
import ServiceMesh.Discovery.Retry

namespace ServiceMesh.Retry

variable {ρ : Type}

/-! ## What attempts meet -/

/-- What one attempt meets. -/
inductive Attempt (ρ : Type) where
  /-- The balancer has no endpoint to give. -/
  | refused (f : Failure)
  /-- The endpoint ends after some time. -/
  | ended (took : Nat) (result : Except Failure ρ)
  /-- The endpoint never ends. -/
  | hangs

namespace Attempt

/-- How long it takes if nobody gives it up. -/
def length : Attempt ρ → ℕ∞
  | .refused _ => 0
  | .ended took _ => took
  | .hangs => ⊤

def success? : Attempt ρ → Option ρ
  | .ended _ (.ok x) => some x
  | _ => none

def failure? : Attempt ρ → Option Failure
  | .refused f => some f
  | .ended _ (.error f) => some f
  | _ => none

/-- Whether an endpoint is called. -/
def isCall : Attempt ρ → Bool
  | .refused _ => false
  | _ => true

/-- Whether an endpoint is called and fails. -/
def isFailedCall : Attempt ρ → Bool
  | .ended _ (.error _) => true
  | _ => false

/-- What it comes to in the time that is left. One that ends just then is in time. -/
def within (remaining : Nat) : Attempt ρ → Timed ρ
  | .ended took result => if took ≤ remaining then .ended took result else .overran
  | _ => .overran

/-- The call of an endpoint. -/
def call (a : Attempt ρ) (remaining : Nat) : Act Nat (Timed ρ) := pure (a.within remaining)

theorem length_ended (took : Nat) (result : Except Failure ρ) : (ended took result).length = took :=
  rfl

theorem within_of_le {took remaining : Nat} (result : Except Failure ρ) (h : took ≤ remaining) :
    (ended took result).within remaining = .ended took result := if_pos h

/-- An endpoint that takes longer than there is time left is given up. -/
theorem within_of_lt {a : Attempt ρ} {remaining : Nat} (h : remaining < a.length) :
    a.within remaining = .overran := by
  cases a with
  | refused f => rfl
  | ended took result =>
    rw [length_ended] at h
    have hlt : remaining < took := by exact_mod_cast h
    exact if_neg (Nat.not_le.mpr hlt)
  | hangs => rfl

end Attempt

/-- What each attempt meets. The first one has the number 0 here. -/
abbrev Script (ρ : Type) := Nat → Attempt ρ

namespace Script

/-- A request to the balancer; the requests are counted. -/
def pick (s : Script ρ) : Act Nat (Except Failure (Attempt ρ)) := fun n =>
  match s n with
  | .refused f => ⟨.ok (.error f), n + 1, []⟩
  | a => ⟨.ok (.ok a), n + 1, []⟩

/-- How long the first attempts take together. -/
def elapsed (s : Script ρ) : Nat → ℕ∞
  | 0 => 0
  | k + 1 => s.elapsed k + (s k).length

/-- What the first attempts fail with, in order. -/
def messages (s : Script ρ) (k : Nat) : List String :=
  (List.range k).filterMap fun i => (s i).failure?.map Failure.display

/-- How many of the first attempts call an endpoint that fails. -/
def failedCalls (s : Script ρ) (k : Nat) : Nat := (List.range k).countP fun i => (s i).isFailedCall

/-- The first attempts fail, and all of them in time. -/
structure Fails (s : Script ρ) (timeout k : Nat) : Prop where
  unsuccessful : ∀ i < k, (s i).success? = none
  in_time : s.elapsed k ≤ timeout

/-- The first attempts fail, and the next one succeeds in time. -/
structure Succeeds (s : Script ρ) (timeout k : Nat) (x : ρ) : Prop where
  unsuccessful : ∀ i < k, (s i).success? = none
  success : (s k).success? = some x
  in_time : s.elapsed (k + 1) ≤ timeout

/-- The first attempts fail in time, and the next one is the first to take too long. -/
structure Overruns (s : Script ρ) (timeout k : Nat) : Prop extends Fails s timeout k where
  late : timeout < s.elapsed (k + 1)

theorem elapsed_le_succ (s : Script ρ) (k : Nat) : s.elapsed k ≤ s.elapsed (k + 1) :=
  le_self_add

theorem Fails.pred {s : Script ρ} {timeout k : Nat} (h : Fails s timeout (k + 1)) :
    Fails s timeout k where
  unsuccessful := fun i hi => h.unsuccessful i (Nat.lt_succ_of_lt hi)
  in_time := le_trans (s.elapsed_le_succ k) h.in_time

theorem Succeeds.fails {s : Script ρ} {timeout k : Nat} {x : ρ} (h : Succeeds s timeout k x) :
    Fails s timeout k where
  unsuccessful := h.unsuccessful
  in_time := le_trans (s.elapsed_le_succ k) h.in_time

/-- However many attempts there are, they fail, or one of them succeeds or takes too long. -/
theorem fails_or_ends (s : Script ρ) (timeout n : Nat) :
    (∃ k < n, ∃ x, Succeeds s timeout k x) ∨ (∃ k < n, Overruns s timeout k) ∨
      Fails s timeout n := by
  induction n with
  | zero =>
    right
    right
    exact ⟨by simp, by simp [elapsed]⟩
  | succ n ih =>
    rcases ih with ⟨k, hk, h⟩ | ⟨k, hk, h⟩ | h
    · exact Or.inl ⟨k, Nat.lt_succ_of_lt hk, h⟩
    · exact Or.inr (Or.inl ⟨k, Nat.lt_succ_of_lt hk, h⟩)
    · by_cases hlate : timeout < s.elapsed (n + 1)
      · exact Or.inr (Or.inl ⟨n, Nat.lt_succ_self n, h, hlate⟩)
      · have htime := not_lt.mp hlate
        cases hs : (s n).success? with
        | some x => exact Or.inl ⟨n, Nat.lt_succ_self n, x, h.unsuccessful, hs, htime⟩
        | none =>
          right
          right
          refine ⟨?_, htime⟩
          intro i hi
          rcases Nat.lt_succ_iff_lt_or_eq.mp hi with hi | rfl
          · exact h.unsuccessful i hi
          · exact hs

/-! ## The progress of a call -/

/-- How far a call has come when the first attempts have failed. -/
def after (s : Script ρ) : Nat → Progress
  | 0 => {}
  | k + 1 =>
    match s k with
    | .refused f => (s.after k).refused f
    | .ended took (.error f) => (s.after k).failed took f
    | _ => s.after k

/-- What is noted of an attempt that fails. -/
def notesOf (s : Script ρ) (k : Nat) : List Note :=
  match s k with
  | .ended _ (.error f) =>
    [.log .debug ("Attempt failed: " ++ f.display) [("attempt", .int (s.after k).number)],
      .counted "gateway_retry_failed_attempts_total" []]
  | _ => []

/-- What is noted of the first attempts. -/
def noted (s : Script ρ) : Nat → List Note
  | 0 => []
  | k + 1 => s.noted k ++ s.notesOf k

theorem after_refused {s : Script ρ} {k : Nat} {f : Failure} (hk : s k = .refused f) :
    s.after (k + 1) = (s.after k).refused f ∧ s.notesOf k = [] := by
  constructor
  · rw [after, hk]
  · rw [notesOf, hk]

theorem after_failed {s : Script ρ} {k took : Nat} {f : Failure}
    (hk : s k = .ended took (.error f)) :
    s.after (k + 1) = (s.after k).failed took f ∧ s.notesOf k =
      [.log .debug ("Attempt failed: " ++ f.display) [("attempt", .int (s.after k).number)],
        .counted "gateway_retry_failed_attempts_total" []] := by
  constructor
  · rw [after, hk]
  · rw [notesOf, hk]

/-- An attempt that fails in time was refused, or called an endpoint that failed. -/
theorem Fails.last {s : Script ρ} {timeout k : Nat} (h : Fails s timeout (k + 1)) :
    (∃ f, s k = .refused f) ∨ ∃ took f, s k = .ended took (.error f) := by
  have hs := h.unsuccessful k (Nat.lt_succ_self k)
  have hlength : (s k).length ≤ timeout := le_trans le_add_self h.in_time
  cases hk : s k with
  | refused f => exact Or.inl ⟨f, rfl⟩
  | ended took result =>
    cases result with
    | ok x =>
      rw [hk] at hs
      cases hs
    | error f => exact Or.inr ⟨took, f, rfl⟩
  | hangs =>
    rw [hk] at hlength
    exact absurd (top_le_iff.mp hlength) (ENat.natCast_ne_top timeout)

theorem spent_after {s : Script ρ} {timeout k : Nat} (h : Fails s timeout k) :
    ((s.after k).spent : ℕ∞) = s.elapsed k := by
  induction k with
  | zero => rfl
  | succ k ih =>
    rw [elapsed, ← ih h.pred]
    rcases h.last with ⟨f, hk⟩ | ⟨took, f, hk⟩
    · rw [(after_refused hk).1, hk]
      simp [Progress.refused, Attempt.length]
    · rw [(after_failed hk).1, hk]
      simp [Progress.failed, Attempt.length]

theorem spent_after_le {s : Script ρ} {timeout k : Nat} (h : Fails s timeout k) :
    (s.after k).spent ≤ timeout := by
  have hin := h.in_time
  rw [← spent_after h] at hin
  exact_mod_cast hin

theorem messages_succ {s : Script ρ} {k : Nat} {f : Failure} (hf : (s k).failure? = some f) :
    s.messages (k + 1) = s.messages k ++ [f.display] := by
  unfold messages
  rw [List.range_succ, List.filterMap_append]
  simp [hf]

theorem failures_after {s : Script ρ} {timeout k : Nat} (h : Fails s timeout k) :
    (s.after k).failures = s.messages k := by
  induction k with
  | zero => rfl
  | succ k ih =>
    rcases h.last with ⟨f, hk⟩ | ⟨took, f, hk⟩
    · rw [messages_succ (by rw [hk]; rfl), (after_refused hk).1, ← ih h.pred]
      rfl
    · rw [messages_succ (by rw [hk]; rfl), (after_failed hk).1, ← ih h.pred]
      rfl

/-- Every attempt that fails leaves a message. -/
theorem length_messages {s : Script ρ} {timeout k : Nat} (h : Fails s timeout k) :
    (s.messages k).length = k := by
  induction k with
  | zero => rfl
  | succ k ih =>
    have failed : ∃ f, (s k).failure? = some f := by
      rcases h.last with ⟨f, hk⟩ | ⟨took, f, hk⟩ <;> exact ⟨f, by rw [hk]; rfl⟩
    obtain ⟨f, hf⟩ := failed
    rw [messages_succ hf, List.length_append, ih h.pred, List.length_singleton]

theorem number_after {s : Script ρ} {timeout k : Nat} (h : Fails s timeout k) :
    (s.after k).number = k + 1 := by
  unfold Progress.number
  rw [failures_after h, length_messages h]

theorem called_after {s : Script ρ} {timeout k : Nat} (h : Fails s timeout k) :
    (s.after k).called = true ↔ ∃ i < k, (s i).isCall = true := by
  induction k with
  | zero => simp [after]
  | succ k ih =>
    rcases h.last with ⟨f, hk⟩ | ⟨took, f, hk⟩
    · have same : (s.after (k + 1)).called = (s.after k).called := by
        rw [(after_refused hk).1]
        rfl
      rw [same, ih h.pred]
      constructor
      · rintro ⟨i, hi, hc⟩
        exact ⟨i, Nat.lt_succ_of_lt hi, hc⟩
      · rintro ⟨i, hi, hc⟩
        rcases Nat.lt_succ_iff_lt_or_eq.mp hi with hi | rfl
        · exact ⟨i, hi, hc⟩
        · rw [hk] at hc
          cases hc
    · have called : (s.after (k + 1)).called = true := by
        rw [(after_failed hk).1]
        rfl
      exact ⟨fun _ => ⟨k, Nat.lt_succ_self k, by rw [hk]; rfl⟩, fun _ => called⟩

/-- The count of calls that fail. -/
def failedSeries : Series := ⟨"gateway_retry_failed_attempts_total", []⟩

theorem total_noted (s : Script ρ) (k : Nat) :
    Note.total failedSeries (s.noted k) = s.failedCalls k := by
  induction k with
  | zero => rfl
  | succ k ih =>
    have last : Note.total failedSeries (s.notesOf k) =
        if (s k).isFailedCall then 1 else 0 := by
      unfold notesOf
      cases s k with
      | refused f => rfl
      | ended took result => cases result <;> rfl
      | hangs => rfl
    unfold noted failedCalls
    rw [Note.total_append, ih, last, List.range_succ, List.countP_append, List.countP_singleton]
    rfl

end Script

/-! ## One attempt -/

section Playing

variable {r : Retry} {s : Script ρ} {k : Nat}

theorem pick_refused {f : Failure} (hk : s k = .refused f) :
    s.pick.run k = ⟨.ok (.error f), k + 1, []⟩ := by
  show s.pick k = _
  rw [Script.pick, hk]

theorem pick_called (hk : (s k).isCall = true) : s.pick.run k = ⟨.ok (.ok (s k)), k + 1, []⟩ := by
  show s.pick k = _
  rw [Script.pick]
  cases hs : s k with
  | refused f =>
    rw [hs] at hk
    cases hk
  | ended took result => rfl
  | hangs => rfl

theorem attempt_refused {f : Failure} (hk : s k = .refused f) (p : Progress) :
    (r.attempt s.pick Attempt.call p).run k = ⟨.ok (.again (p.refused f)), k + 1, []⟩ := by
  unfold attempt
  rw [Act.run_bind_ok (pick_refused hk)]
  rfl

/-- An endpoint that is called comes to what it comes to in the time that is left. -/
theorem attempt_called (hk : (s k).isCall = true) (p : Progress) :
    (r.attempt s.pick Attempt.call p).run k =
      match (s k).within (r.timeout - p.spent) with
      | .ended took (.ok x) => ⟨.ok (.done (p.spent + took) (.ok x)), k + 1, []⟩
      | .ended took (.error f) => ⟨.ok (.again (p.failed took f)), k + 1,
          [.log .debug ("Attempt failed: " ++ f.display) [("attempt", .int p.number)],
            .counted "gateway_retry_failed_attempts_total" []]⟩
      | .overran => ⟨.ok (.done r.timeout (.error (r.late p))), k + 1,
          [.counted "gateway_retry_deadline_exceeded_total" []]⟩ := by
  have hcall : ((s k).call (r.timeout - p.spent)).run (k + 1) =
      ⟨.ok ((s k).within (r.timeout - p.spent)), k + 1, []⟩ := rfl
  unfold attempt
  rw [Act.run_bind_ok (pick_called hk)]
  simp only
  rw [Act.run_bind_ok hcall]
  cases (s k).within (r.timeout - p.spent) with
  | ended took result => cases result <;> rfl
  | overran => rfl

/-- An endpoint that ends with the attempts so far in time leaves enough time for it. -/
theorem took_le {took : Nat} {result : Except Failure ρ} (h : s.Fails r.timeout k)
    (hk : s k = .ended took result) (htime : s.elapsed (k + 1) ≤ r.timeout) :
    took ≤ r.timeout - (s.after k).spent := by
  rw [Script.elapsed, hk, Attempt.length_ended, ← Script.spent_after h] at htime
  have hnat : (s.after k).spent + took ≤ r.timeout := by exact_mod_cast htime
  omega

/-- An attempt that fails in time leads to the next one. -/
theorem attempt_fails (h : s.Fails r.timeout (k + 1)) :
    (r.attempt s.pick Attempt.call (s.after k)).run k =
      ⟨.ok (.again (s.after (k + 1))), k + 1, s.notesOf k⟩ := by
  rcases h.last with ⟨f, hk⟩ | ⟨took, f, hk⟩
  · obtain ⟨hafter, hnotes⟩ := Script.after_refused hk
    rw [hafter, hnotes, attempt_refused hk]
  · obtain ⟨hafter, hnotes⟩ := Script.after_failed hk
    rw [hafter, hnotes, attempt_called (by rw [hk]; rfl), hk,
      Attempt.within_of_le _ (took_le h.pred hk h.in_time)]

/-- An attempt that succeeds in time is the last. -/
theorem attempt_succeeds {x : ρ} (h : s.Succeeds r.timeout k x) :
    ∃ spent : Nat, (spent : ℕ∞) = s.elapsed (k + 1) ∧
      (r.attempt s.pick Attempt.call (s.after k)).run k = ⟨.ok (.done spent (.ok x)), k + 1, []⟩ := by
  obtain ⟨took, hk⟩ : ∃ took, s k = .ended took (.ok x) := by
    have hs := h.success
    cases hk : s k with
    | refused f =>
      rw [hk] at hs
      cases hs
    | ended took result =>
      rw [hk] at hs
      cases result with
      | ok y =>
        cases hs
        exact ⟨took, rfl⟩
      | error f => cases hs
    | hangs =>
      rw [hk] at hs
      cases hs
  refine ⟨(s.after k).spent + took, ?_, ?_⟩
  · rw [Script.elapsed, hk, Attempt.length_ended, ← Script.spent_after h.fails]
    norm_cast
  · rw [attempt_called (by rw [hk]; rfl), hk,
      Attempt.within_of_le _ (took_le h.fails hk h.in_time)]

/-- An attempt that takes too long is given up at the deadline. -/
theorem attempt_overruns (h : s.Overruns r.timeout k) :
    (r.attempt s.pick Attempt.call (s.after k)).run k =
      ⟨.ok (.done r.timeout (.error (r.late (s.after k)))), k + 1,
        [.counted "gateway_retry_deadline_exceeded_total" []]⟩ := by
  have hspent := Script.spent_after h.toFails
  have hle := Script.spent_after_le h.toFails
  have hlate : ((r.timeout - (s.after k).spent : Nat) : ℕ∞) < (s k).length := by
    have hlt := h.late
    rw [Script.elapsed, ← hspent] at hlt
    cases hlength : (s k).length with
    | top => exact ENat.natCast_lt_top _
    | coe n =>
      rw [hlength] at hlt
      have hnat : r.timeout < (s.after k).spent + n := by exact_mod_cast hlt
      have hsub : r.timeout - (s.after k).spent < n := by omega
      exact_mod_cast hsub
  have hcall : (s k).isCall = true := by
    cases hk : s k with
    | refused f =>
      rw [hk] at hlate
      exact absurd hlate (by simp [Attempt.length])
    | ended took result => rfl
    | hangs => rfl
  rw [attempt_called hcall, Attempt.within_of_lt hlate]

/-! ## A whole call -/

/-- A call passes over attempts that fail in time. -/
theorem go_fails (h : s.Fails r.timeout k) (left : Nat) :
    (r.go s.pick Attempt.call (k + left) {}).run 0 =
      ⟨((r.go s.pick Attempt.call left (s.after k)).run k).result,
        ((r.go s.pick Attempt.call left (s.after k)).run k).state,
        s.noted k ++ ((r.go s.pick Attempt.call left (s.after k)).run k).notes⟩ := by
  induction k generalizing left with
  | zero =>
    rw [Nat.zero_add]
    rfl
  | succ k ih =>
    have one : (r.go s.pick Attempt.call (left + 1) (s.after k)).run k =
        ⟨((r.go s.pick Attempt.call left (s.after (k + 1))).run (k + 1)).result,
          ((r.go s.pick Attempt.call left (s.after (k + 1))).run (k + 1)).state,
          s.notesOf k ++ ((r.go s.pick Attempt.call left (s.after (k + 1))).run (k + 1)).notes⟩ := by
      rw [go, Act.run_bind_ok (attempt_fails h)]
    rw [show k + 1 + left = k + (left + 1) from by omega, ih h.pred, one, Script.noted,
      List.append_assoc]

/-- The attempt that ends a call ends it. -/
theorem go_ends (h : s.Fails r.timeout k) (hk : k < r.attempts) {spent : Nat}
    {result : Except Failure ρ} {notes : List Note}
    (hdone : (r.attempt s.pick Attempt.call (s.after k)).run k =
      ⟨.ok (.done spent result), k + 1, notes⟩) :
    (r.go s.pick Attempt.call r.attempts {}).run 0 =
      ⟨.ok (spent, result), k + 1, s.noted k ++ notes⟩ := by
  obtain ⟨left, hleft⟩ : ∃ left, r.attempts = k + (left + 1) := ⟨r.attempts - k - 1, by omega⟩
  rw [hleft, go_fails h, go, Act.run_bind_ok hdone]
  simp

end Playing

end ServiceMesh.Retry
