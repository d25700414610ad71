-- A call that is tried again, cut where it waits: before a pick, and for the
-- endpoint that it has called. At these points other calls may go on. It has a
-- deadline from the beginning.
import ServiceMesh.Discovery.Retry

namespace ServiceMesh.Retry

variable {σ κ ρ : Type}

/-! ## The deadline -/

/-- The clock reaches to the deadline of a call that begins at an instant. -/
def Meets (r : Retry) (now : Instant) : Prop := now + Span.millis r.timeout < Instant.limit

section Begin

variable {r : Retry} {now : Instant}

/-- A call that has a deadline goes on to its attempts. -/
theorem run_of_meets (h : r.Meets now) (pick : Act σ (Except Failure κ))
    (call : κ → Nat → Act σ (Timed ρ)) :
    r.run now pick call = r.go pick call r.attempts {} := by
  unfold Meets at h
  unfold run
  rw [Instant.after_of_lt h]

/-- A call whose deadline is beyond the clock asks for nothing. -/
theorem run_of_not_meets (h : ¬ r.Meets now) (pick : Act σ (Except Failure κ))
    (call : κ → Nat → Act σ (Timed ρ)) : r.run now pick call = Act.crash .clockRange := by
  unfold Meets at h
  unfold run
  rw [Instant.after_of_limit_le (Nat.le_of_not_lt h)]

end Begin

/-! ## Stages -/

inductive Stage (κ ρ : Type) where
  /-- An attempt is to begin, with a pick. -/
  | asking (p : Progress)
  /-- What was picked has been called. -/
  | calling (endpoint : κ) (p : Progress)
  | ended (spent : Nat) (result : Except Failure ρ)

/-- After an attempt comes the next one, if any is left, or the end. -/
def after (r : Retry) : Step ρ → Stage κ ρ
  | .again p =>
    if p.failures.length < r.attempts then .asking p
    else .ended p.spent (.error (r.exhausted p))
  | .done spent result => .ended spent result

/-- What an attempt leads to when its endpoint has come to something. -/
def outcome (r : Retry) (p : Progress) : Timed ρ → Step ρ
  | .ended took (.ok x) => .done (p.spent + took) (.ok x)
  | .ended took (.error f) => .again (p.failed took f)
  | .overran => .done r.timeout (.error (r.late p))

/-- What is noted of that. -/
def outcomeNotes (p : Progress) : Timed ρ → List Note
  | .ended _ (.ok _) => []
  | .ended _ (.error f) =>
    [.log .debug ("Attempt failed: " ++ f.display) [("attempt", .int p.number)],
      .counted "gateway_retry_failed_attempts_total" []]
  | .overran => [.counted "gateway_retry_deadline_exceeded_total" []]

/-- A pick has come out. -/
def picked (r : Retry) (p : Progress) : Except Failure κ → Stage κ ρ
  | .ok e => .calling e p
  | .error f => r.after (.again (p.refused f))

/-- The endpoint that was called has come to something. -/
def answered (r : Retry) (p : Progress) (t : Timed ρ) : Stage κ ρ := r.after (r.outcome p t)

/-! ## A call from stage to stage -/

section Rest

variable (r : Retry) (pick : Act σ (Except Failure κ)) (call : κ → Nat → Act σ (Timed ρ))

/-- What is left to be done of a call. -/
def rest : Stage κ ρ → Act σ (Nat × Except Failure ρ)
  | .asking p => r.go pick call (r.attempts - p.failures.length) p
  | .calling e p => do
    let t ← call e (r.timeout - p.spent)
    Act.note (outcomeNotes p t)
    match r.outcome p t with
    | .done spent result => return (spent, result)
    | .again p => r.go pick call (r.attempts - p.failures.length) p
  | .ended spent result => return (spent, result)

theorem attempt_eq (p : Progress) :
    r.attempt pick call p = pick >>= fun x =>
      match x with
      | .error f => return .again (p.refused f)
      | .ok e => do
        let t ← call e (r.timeout - p.spent)
        Act.note (outcomeNotes p t)
        return r.outcome p t := by
  unfold attempt
  congr 1
  funext x
  cases x with
  | error f => rfl
  | ok e =>
    simp only
    congr 1
    funext t
    rcases t with ⟨took, f | y⟩ | _ <;> rfl

/-- What follows an attempt when so many attempts are left. -/
def follow (left : Nat) : Step ρ → Act σ (Nat × Except Failure ρ)
  | .done spent result => return (spent, result)
  | .again p => r.go pick call left p

theorem go_succ (left : Nat) (p : Progress) :
    r.go pick call (left + 1) p = r.attempt pick call p >>= r.follow pick call left := rfl

theorem rest_after (left : Nat) {step : Step ρ}
    (h : ∀ p, step = .again p → r.attempts - p.failures.length = left) :
    r.rest pick call (r.after step) = r.follow pick call left step := by
  cases step with
  | done spent result => rfl
  | again p =>
    have hleft := h p rfl
    unfold after
    simp only
    by_cases hp : p.failures.length < r.attempts
    · rw [if_pos hp, ← hleft]
      rfl
    · have hzero : left = 0 := by omega
      rw [if_neg hp, hzero]
      rfl

theorem length_of_outcome {p p' : Progress} {t : Timed ρ} (h : r.outcome p t = .again p') :
    p'.failures.length = p.failures.length + 1 := by
  rcases t with ⟨took, f | x⟩ | _
  · cases h
    exact List.length_append
  · cases h
  · cases h

theorem rest_calling (e : κ) (p : Progress) :
    r.rest pick call (.calling e p) = (do
      let t ← call e (r.timeout - p.spent)
      Act.note (outcomeNotes p t)
      r.rest pick call (r.answered p t)) := by
  unfold answered
  rw [rest]
  congr 1
  funext t
  congr 1
  funext _
  cases r.outcome p t with
  | done spent result => rfl
  | again p' =>
    rw [rest_after r pick call (r.attempts - p'.failures.length)]
    · rfl
    · rintro p'' ⟨⟩
      rfl

theorem rest_asking {p : Progress} (h : p.failures.length < r.attempts) :
    r.rest pick call (.asking p) = pick >>= fun x => r.rest pick call (r.picked p x) := by
  obtain ⟨left, hleft⟩ : ∃ left, r.attempts - p.failures.length = left + 1 :=
    Nat.exists_eq_add_one_of_ne_zero (Nat.sub_ne_zero_of_lt h)
  rw [rest, hleft, go_succ, attempt_eq, bind_assoc]
  congr 1
  funext x
  cases x with
  | error f =>
    show r.follow pick call left (.again (p.refused f)) =
      r.rest pick call (r.after (.again (p.refused f)))
    symm
    apply rest_after r pick call
    rintro p' ⟨⟩
    have hlength : (p.refused f).failures.length = p.failures.length + 1 := List.length_append
    omega
  | ok e =>
    rw [picked, rest_calling]
    simp only [bind_assoc, pure_bind]
    congr 1
    funext t
    congr 1
    funext _
    symm
    apply rest_after r pick call
    intro p' hp
    have hlength := length_of_outcome r hp
    omega

/-- A call, as its stages follow one another. -/
structure Stagewise : Prop where
  begins : ∀ now, r.Meets now → r.run now pick call = r.rest pick call (.asking {})
  breaks_off : ∀ now, ¬ r.Meets now → r.run now pick call = Act.crash .clockRange
  asks : ∀ p, p.failures.length < r.attempts →
    r.rest pick call (.asking p) = do
      let x ← pick
      r.rest pick call (r.picked p x)
  calls : ∀ e p, r.rest pick call (.calling e p) = do
    let t ← call e (r.timeout - p.spent)
    Act.note (outcomeNotes p t)
    r.rest pick call (r.answered p t)
  ends : ∀ spent result, r.rest pick call (.ended spent result) = return (spent, result)

theorem stagewise : r.Stagewise pick call where
  begins := fun _ h => run_of_meets h pick call
  breaks_off := fun _ h => run_of_not_meets h pick call
  asks := fun _ => rest_asking r pick call
  calls := rest_calling r pick call
  ends := fun _ _ => rfl

end Rest

end ServiceMesh.Retry
