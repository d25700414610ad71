-- The law of a call that is tried again: the first success in time, the deadline,
-- or the end of the attempts decides, and what is reported tells which.
import ServiceMesh.Proofs.Discovery.Attempts
import ServiceMesh.Proofs.Discovery.Stages

namespace ServiceMesh.Retry

variable {ρ : Type}

/-! ## The three ends of a call -/

/-- A whole call that begins at an instant, from its first request to the balancer. The state
counts the requests. -/
def played (r : Retry) (now : Instant) (s : Script ρ) : Outcome Nat (Nat × Except Failure ρ) :=
  (r.run now s.pick Attempt.call).run 0

section Met

variable {r : Retry} {now : Instant} {s : Script ρ}

theorem played_of_meets (h : r.Meets now) :
    r.played now s = (r.go s.pick Attempt.call r.attempts {}).run 0 := by
  unfold played
  rw [run_of_meets h]

theorem played_of_not_meets (h : ¬ r.Meets now) :
    r.played now s = ⟨.error .clockRange, 0, []⟩ := by
  unfold played
  rw [run_of_not_meets h]
  rfl

theorem played_succeeds (hmeets : r.Meets now) {k : Nat} {x : ρ} (hk : k < r.attempts)
    (h : s.Succeeds r.timeout k x) :
    ∃ spent : Nat, (spent : ℕ∞) = s.elapsed (k + 1) ∧
      r.played now s = ⟨.ok (spent, .ok x), k + 1, s.noted k⟩ := by
  obtain ⟨spent, hspent, hdone⟩ := attempt_succeeds h
  refine ⟨spent, hspent, ?_⟩
  rw [played_of_meets hmeets, go_ends h.fails hk hdone, List.append_nil]

theorem played_overruns (hmeets : r.Meets now) {k : Nat} (hk : k < r.attempts)
    (h : s.Overruns r.timeout k) :
    r.played now s = ⟨.ok (r.timeout, .error (r.late (s.after k))), k + 1,
      s.noted k ++ [.counted "gateway_retry_deadline_exceeded_total" []]⟩ := by
  rw [played_of_meets hmeets]
  exact go_ends h.toFails hk (attempt_overruns h)

theorem played_exhausted (hmeets : r.Meets now) (h : s.Fails r.timeout r.attempts) :
    r.played now s = ⟨.ok ((s.after r.attempts).spent, .error (r.exhausted (s.after r.attempts))),
      r.attempts, s.noted r.attempts⟩ := by
  have hgo := go_fails h 0
  rw [Nat.add_zero] at hgo
  rw [played_of_meets hmeets, hgo]
  simp [go]

end Met

/-! ## What is reported -/

theorem late_after {r : Retry} {s : Script ρ} {k : Nat} (h : s.Fails r.timeout k) :
    r.late (s.after k) = .badGateway ("retry deadline of " ++ Text.spanText r.timeout ++
      " exceeded on attempt " ++ toString (k + 1) ++
      if k = 0 then "" else " (previous: " ++ "; ".intercalate (s.messages k) ++ ")") := by
  have hlength := Script.length_messages h
  unfold late
  rw [Script.number_after h, Script.failures_after h]
  cases k with
  | zero => rfl
  | succ k =>
    have some : (s.messages (k + 1)).isEmpty = false := by
      rw [List.isEmpty_eq_false_iff, ← List.length_pos_iff, hlength]
      exact Nat.succ_pos k
    simp only [some, Bool.false_eq_true, if_false, if_neg (Nat.succ_ne_zero k)]

theorem attempts_pos (r : Retry) : 0 < r.attempts := by
  unfold attempts
  exact Nat.le_max_left 1 r.max

/-- If no endpoint was called, what the balancer said last is reported itself. -/
theorem exhausted_uncalled {r : Retry} {s : Script ρ} (h : s.Fails r.timeout r.attempts)
    (hnone : ∀ i < r.attempts, (s i).isCall = false) :
    ∃ f, s (r.attempts - 1) = .refused f ∧ r.exhausted (s.after r.attempts) = f := by
  obtain ⟨last, hlast⟩ : ∃ last, r.attempts = last + 1 :=
    ⟨r.attempts - 1, (Nat.succ_pred_eq_of_pos r.attempts_pos).symm⟩
  have hcalled : (s.after r.attempts).called = false := by
    rw [← Bool.not_eq_true, Script.called_after h]
    rintro ⟨i, hi, hc⟩
    rw [hnone i hi] at hc
    cases hc
  obtain ⟨f, hf⟩ : ∃ f, s last = .refused f := by
    have hcall := hnone last (by omega)
    cases hs : s last with
    | refused f => exact ⟨f, rfl⟩
    | ended took result =>
      rw [hs] at hcall
      cases hcall
    | hangs =>
      rw [hs] at hcall
      cases hcall
  have hrefusal : (s.after r.attempts).refusal = some f := by
    rw [hlast, (Script.after_refused hf).1]
    rfl
  refine ⟨f, by rw [hlast, Nat.add_sub_cancel, hf], ?_⟩
  unfold exhausted
  rw [hcalled, hrefusal]

/-- If an endpoint was called, every attempt is told of. -/
theorem exhausted_called {r : Retry} {s : Script ρ} (h : s.Fails r.timeout r.attempts)
    (hsome : ∃ i < r.attempts, (s i).isCall = true) :
    r.exhausted (s.after r.attempts) = .badGateway ("retry attempts exhausted (" ++
      toString r.attempts ++ "): " ++ "; ".intercalate (s.messages r.attempts)) := by
  have hcalled := (Script.called_after h).mpr hsome
  unfold exhausted
  rw [hcalled, Script.failures_after h]

/-! ## The law -/

/-- What a call that has a deadline does, by what its attempts meet. -/
structure Lawful (r : Retry) (s : Script ρ) (o : Outcome Nat (Nat × Except Failure ρ)) : Prop where
  /-- The first success, if it is in time, is the answer, and nothing is asked for after it. -/
  on_success : ∀ k < r.attempts, ∀ x, s.Succeeds r.timeout k x →
    ∃ spent : Nat, (spent : ℕ∞) = s.elapsed (k + 1) ∧ o.result = .ok (spent, .ok x) ∧
      o.state = k + 1 ∧ Note.total Script.failedSeries o.notes = s.failedCalls k
  /-- An attempt that takes too long is given up at the deadline, and told of with all before. -/
  on_overrun : ∀ k < r.attempts, s.Overruns r.timeout k →
    o.result = .ok (r.timeout, .error (.badGateway ("retry deadline of " ++
      Text.spanText r.timeout ++ " exceeded on attempt " ++ toString (k + 1) ++
      if k = 0 then "" else " (previous: " ++ "; ".intercalate (s.messages k) ++ ")"))) ∧
      (s.messages k).length = k ∧ o.state = k + 1 ∧
      Note.total Script.failedSeries o.notes = s.failedCalls k
  /-- If all attempts fail, what is reported depends on whether an endpoint was called. -/
  on_failure : s.Fails r.timeout r.attempts →
    ∃ (spent : Nat) (f : Failure), (spent : ℕ∞) = s.elapsed r.attempts ∧
      o.result = .ok (spent, .error f) ∧ o.state = r.attempts ∧
      Note.total Script.failedSeries o.notes = s.failedCalls r.attempts ∧
      ((∀ i < r.attempts, (s i).isCall = false) → s (r.attempts - 1) = .refused f) ∧
      ((∃ i < r.attempts, (s i).isCall = true) → (s.messages r.attempts).length = r.attempts ∧
        f = .badGateway ("retry attempts exhausted (" ++ toString r.attempts ++ "): " ++
          "; ".intercalate (s.messages r.attempts)))
  /-- There is no other end. -/
  ends : (∃ k < r.attempts, ∃ x, s.Succeeds r.timeout k x) ∨
    (∃ k < r.attempts, s.Overruns r.timeout k) ∨ s.Fails r.timeout r.attempts
  /-- There are never more attempts, and there is never more time. -/
  bounded : o.state ≤ r.attempts ∧ ∃ spent result, o.result = .ok (spent, result) ∧
    spent ≤ r.timeout

theorem lawful {r : Retry} {now : Instant} (hmeets : r.Meets now) (s : Script ρ) :
    Lawful r s (r.played now s) where
  on_success := by
    intro k hk x h
    obtain ⟨spent, hspent, hplayed⟩ := played_succeeds hmeets hk h
    rw [hplayed]
    exact ⟨spent, hspent, rfl, rfl, Script.total_noted s k⟩
  on_overrun := by
    intro k hk h
    rw [played_overruns hmeets hk h, late_after h.toFails]
    refine ⟨rfl, Script.length_messages h.toFails, rfl, ?_⟩
    have other : Note.total Script.failedSeries
        [.counted "gateway_retry_deadline_exceeded_total" []] = 0 := by decide
    simp only
    rw [Note.total_append, Script.total_noted, other, Nat.add_zero]
  on_failure := by
    intro h
    rw [played_exhausted hmeets h]
    refine ⟨_, _, Script.spent_after h, rfl, rfl, Script.total_noted s _, ?_, ?_⟩
    · intro hnone
      obtain ⟨f, hf, hexhausted⟩ := exhausted_uncalled h hnone
      rw [hexhausted]
      exact hf
    · intro hsome
      exact ⟨Script.length_messages h, exhausted_called h hsome⟩
  ends := s.fails_or_ends r.timeout r.attempts
  bounded := by
    rcases s.fails_or_ends r.timeout r.attempts with ⟨k, hk, x, h⟩ | ⟨k, hk, h⟩ | h
    · obtain ⟨spent, hspent, hplayed⟩ := played_succeeds hmeets hk h
      have hin := h.in_time
      rw [← hspent] at hin
      rw [hplayed]
      exact ⟨hk, spent, _, rfl, by exact_mod_cast hin⟩
    · rw [played_overruns hmeets hk h]
      exact ⟨hk, r.timeout, _, rfl, Nat.le_refl _⟩
    · rw [played_exhausted hmeets h]
      exact ⟨Nat.le_refl _, _, _, rfl, Script.spent_after_le h⟩

/-- What becomes of a call. -/
structure Course (r : Retry) (now : Instant) (s : Script ρ) : Prop where
  lawful : r.Meets now → Lawful r s (r.played now s)
  /-- A call whose deadline is beyond the clock breaks off before the balancer is asked. -/
  lost : ¬ r.Meets now → r.played now s = ⟨.error .clockRange, 0, []⟩

theorem a_call_is_tried_again_until_an_end (r : Retry) (now : Instant) (s : Script ρ) :
    Course r now s where
  lawful := fun hmeets => Retry.lawful hmeets s
  lost := fun hmeets => played_of_not_meets hmeets

/-- Every attempt fails after 100 ms, but for the second, which takes a second. -/
def slowing : Script Unit := fun i =>
  .ended (Span.ofMillis (if i = 1 then 1000 else 100)) (.error (.badGateway "down"))

/-- A success at once is lost if the deadline is beyond the clock. An attempt that would overrun
the deadline does not matter if it is not made. -/
theorem some_calls_end_otherwise :
    (∃ (r : Retry) (s : Script Unit), s.Succeeds r.timeout 0 () ∧
      r.played 0 s = ⟨.error .clockRange, 0, []⟩) ∧
    Script.Overruns slowing (Span.ofMillis 500) 1 ∧
      ((⟨1, Span.ofMillis 500⟩ : Retry).played 0 slowing).result = .ok (Span.ofMillis 100,
        .error (.badGateway "retry attempts exhausted (1): Bad Gateway: down")) := by
  refine ⟨⟨⟨1, Span.ofMillis Instant.limit⟩, fun _ => .ended 0 (.ok ()), ?_, ?_⟩, ?_, ?_⟩
  · exact ⟨by simp, rfl, by simp [Script.elapsed, Attempt.length]⟩
  · refine played_of_not_meets ?_
    simp [Meets]
  · refine ⟨⟨?_, ?_⟩, ?_⟩
    · intro i _
      rfl
    · simp only [Script.elapsed, slowing, Attempt.length]
      decide
    · simp only [Script.elapsed, slowing, Attempt.length]
      decide
  · decide +kernel

end ServiceMesh.Retry
