-- The trial rule of a breaker: from the moment the circuit opens until it
-- closes, one trial at a time, and the trial alone decides. It holds as long as
-- no call from before the opening ends late and is heeded.
import ServiceMesh.Proofs.Endpoint.BreakerTraffic

namespace ServiceMesh.Breaker

/-! ## What the end of a call changes -/

/-- Whether the breaker changes its circuit over the end of a call. -/
def Heeds (b : Breaker) (now : Instant) (success : Bool) : Prop :=
  match b.circuit with
  | .closed failures =>
    if success then failures ≠ 0
    else failures + 1 < b.settings.maxFailures ∨ now + b.settings.openFor < Instant.limit
  | .opened _ => False
  | .halfOpen _ => success = true ∨ now + b.settings.openFor < Instant.limit

theorem openFrom_ok (b : Breaker) (now : Instant) (h : now + b.settings.openFor < Instant.limit) :
    b.openFrom now = .ok { b with circuit := .opened (now + b.settings.openFor) } := by
  unfold openFrom
  rw [Instant.after_of_lt h]
  rfl

theorem openFrom_error (b : Breaker) (now : Instant)
    (h : ¬ now + b.settings.openFor < Instant.limit) : b.openFrom now = .error .clockRange := by
  unfold openFrom
  rw [Instant.after_of_limit_le (Nat.le_of_not_lt h)]
  rfl

/-- A record that the breaker does not heed leaves it as it was, or breaks off. -/
theorem record_unheeded (b : Breaker) (now : Instant) (success : Bool)
    (h : ¬ b.Heeds now success) :
    (b.record now success).1 = .ok b ∨ (b.record now success).1 = .error .clockRange := by
  obtain ⟨name, settings, circuit⟩ := b
  unfold record
  cases circuit with
  | closed failures =>
    cases success with
    | true =>
      have h0 : failures = 0 := by simpa [Heeds] using h
      subst h0
      exact Or.inl rfl
    | false =>
      simp only [Heeds, Bool.false_eq_true, if_false, not_or, Nat.not_lt] at h
      simp only [if_pos h.1]
      exact Or.inr (openFrom_error _ _ (by simpa using h.2))
  | opened u => exact Or.inl rfl
  | halfOpen trial =>
    simp only [Heeds, not_or, Bool.not_eq_true] at h
    rw [h.1]
    exact Or.inr (openFrom_error _ _ h.2)

/-- A record that the breaker heeds changes the circuit, to a closed or an open one. -/
theorem record_heeded (b : Breaker) (now : Instant) (success : Bool) (h : b.Heeds now success) :
    ∃ b', (b.record now success).1 = .ok b' ∧ b'.circuit ≠ b.circuit ∧
      ((∃ failures, b'.circuit = .closed failures) ∨ ∃ u, b'.circuit = .opened u) := by
  obtain ⟨name, settings, circuit⟩ := b
  unfold record
  cases circuit with
  | closed failures =>
    cases success with
    | true => exact ⟨_, rfl, by simpa [Heeds, eq_comm] using h, Or.inl ⟨_, rfl⟩⟩
    | false =>
      simp only [Heeds, Bool.false_eq_true, if_false] at h
      by_cases hmax : settings.maxFailures ≤ failures + 1
      · have hr : now + settings.openFor < Instant.limit :=
          h.resolve_left (Nat.not_lt.mpr hmax)
        simp only [if_pos hmax]
        exact ⟨_, openFrom_ok _ _ hr, by simp, Or.inr ⟨_, rfl⟩⟩
      · simp only [if_neg hmax]
        exact ⟨_, rfl, by simp, Or.inl ⟨_, rfl⟩⟩
  | opened u => exact absurd h (by simp [Heeds])
  | halfOpen trial =>
    cases success with
    | true => exact ⟨_, rfl, by simp, Or.inl ⟨_, rfl⟩⟩
    | false =>
      simp only [Heeds, Bool.false_eq_true, false_or] at h
      exact ⟨_, openFrom_ok _ _ h, by simp, Or.inr ⟨_, rfl⟩⟩

/-! ## The trial rule -/

namespace Circuit

def isClosed : Circuit → Bool
  | .closed _ => true
  | _ => false

def isHalfOpen : Circuit → Bool
  | .halfOpen _ => true
  | _ => false

end Circuit

namespace Traffic

/-- The calls inside that passed since the closed circuit last opened. -/
def trials (t : Traffic) : List Passed := t.inside.filter (·.opening = t.openings)

/-- The trial rule, for the event that comes next. -/
structure TrialRule (t : Traffic) (e : Event) : Prop where
  /-- While the circuit is not closed, there is one trial at most. -/
  one_trial : (t.step e).circuit.isClosed = false → (t.step e).trials.length ≤ 1
  /-- A half-open circuit closes or opens only over the end of a trial. -/
  trial_decides : t.circuit.isHalfOpen = true → (t.step e).circuit.isHalfOpen = false →
    ∃ c ∈ t.trials, ∃ success, e.ends? = some (c.ticket, success)

/-- The trial rule, and calls from before the last opening that change nothing when they end. -/
structure Lawful (t : Traffic) (e : Event) : Prop extends TrialRule t e where
  late_changes_nothing : ∀ c ∈ t.inside, c.opening < t.openings →
    ∀ success, e.ends? = some (c.ticket, success) → (t.step e).breaker = t.breaker

/-- A call from before the last opening ends, and the breaker heeds it. -/
def HeedsLate (t : Traffic) (e : Event) : Prop :=
  ∃ c ∈ t.inside, c.opening < t.openings ∧
    ∃ success, e.ends? = some (c.ticket, success) ∧ t.breaker.Heeds t.now success

/-! ## What one event does -/

theorem step_of_ends (t : Traffic) (e : Event) (ticket : Nat) (success : Bool)
    (h : e.ends? = some (ticket, success)) : t.step e = t.ending ticket success := by
  cases e with
  | ask => cases h
  | finish n s =>
    cases h
    rfl
  | drop n =>
    cases h
    rfl
  | wait millis => cases h

theorem holds_iff (t : Traffic) (ticket : Nat) :
    t.holds ticket = true ↔ ∃ c ∈ t.inside, c.ticket = ticket := by
  simp [holds]

/-- A call that is not heeded leaves, and nothing else happens. -/
theorem ending_unheeded (t : Traffic) (ticket : Nat) (success : Bool)
    (h : ¬ t.breaker.Heeds t.now success) :
    t.ending ticket success = t ∨ t.ending ticket success = t.leave t.breaker ticket := by
  unfold ending
  by_cases hin : t.holds ticket = true
  · rw [if_pos hin]
    right
    rcases record_unheeded _ _ _ h with hr | hr <;> rw [hr]
  · rw [if_neg hin]
    exact Or.inl rfl

/-- A call that is heeded leaves, and the circuit changes. -/
theorem ending_heeded (t : Traffic) (ticket : Nat) (success : Bool)
    (hin : t.holds ticket = true) (h : t.breaker.Heeds t.now success) :
    ∃ b, t.ending ticket success = t.leave b ticket ∧ b.circuit ≠ t.circuit ∧
      ((∃ failures, b.circuit = .closed failures) ∨ ∃ u, b.circuit = .opened u) := by
  obtain ⟨b, hb, hne, hc⟩ := record_heeded _ _ _ h
  refine ⟨b, ?_, hne, hc⟩
  unfold ending
  rw [if_pos hin, hb]

/-- What keeps the trials to one: an open circuit has none, and a half-open one has let its
trial in. -/
structure Good (t : Traffic) : Prop where
  opening_le : ∀ c ∈ t.inside, c.opening ≤ t.openings
  opened_none : ∀ u, t.circuit = .opened u → t.trials = []
  half_open_one : ∀ trial, t.circuit = .halfOpen trial → trial = true ∧ t.trials.length ≤ 1

theorem Good.one_trial {t : Traffic} (g : Good t) (h : t.circuit.isClosed = false) :
    t.trials.length ≤ 1 := by
  cases hc : t.circuit with
  | closed failures => simp [hc, Circuit.isClosed] at h
  | opened u => simp [g.opened_none u hc]
  | halfOpen trial => exact (g.half_open_one trial hc).2

theorem good_quiet (name : String) (settings : Settings) (now : Instant) :
    Good (quiet name settings now) where
  opening_le := by simp [quiet]
  opened_none := by simp [quiet, circuit]
  half_open_one := by simp [quiet, circuit]

theorem good_ask {t : Traffic} (g : Good t) : Good t.ask := by
  obtain ⟨⟨name, settings, c⟩, now, inside, tickets, openings⟩ := t
  have joined : ∀ c ∈ inside ++ [⟨tickets, openings⟩], c.opening ≤ openings := by
    intro c hc
    rcases List.mem_append.mp hc with hc | hc
    · exact g.opening_le c hc
    · have hnew := List.mem_singleton.mp hc
      subst hnew
      exact Nat.le_refl openings
  cases c with
  | closed failures =>
    exact ⟨joined, by simp [ask, enter, circuit], by simp [ask, enter, circuit]⟩
  | opened u =>
    by_cases hu : u ≤ now
    · have none : inside.filter (·.opening = openings) = [] := g.opened_none u rfl
      have passed : ask ⟨⟨name, settings, .opened u⟩, now, inside, tickets, openings⟩ =
          ⟨⟨name, settings, .halfOpen true⟩, now, inside ++ [⟨tickets, openings⟩], tickets + 1,
            openings⟩ := by
        simp [ask, enter, hu]
      rw [passed]
      refine ⟨joined, by simp [circuit], ?_⟩
      intro trial ht
      cases ht
      refine ⟨rfl, ?_⟩
      unfold trials
      simp [List.filter_append, none]
    · have refused : ask ⟨⟨name, settings, .opened u⟩, now, inside, tickets, openings⟩ =
          ⟨⟨name, settings, .opened u⟩, now, inside, tickets, openings⟩ := by
        simp [ask, enter, hu]
      rw [refused]
      exact g
  | halfOpen trial =>
    obtain ⟨rfl, -⟩ := g.half_open_one trial rfl
    exact g

theorem openings_le_leave (t : Traffic) (b : Breaker) (ticket : Nat) :
    t.openings ≤ (t.leave b ticket).openings := by
  unfold leave
  split <;> simp

theorem inside_of_leave {t : Traffic} {b : Breaker} {ticket : Nat} {c : Passed}
    (h : c ∈ (t.leave b ticket).inside) : c ∈ t.inside :=
  (List.mem_filter.mp h).1

theorem Good.leave_opening_le {t : Traffic} (g : Good t) (b : Breaker) (ticket : Nat) :
    ∀ c ∈ (t.leave b ticket).inside, c.opening ≤ (t.leave b ticket).openings := by
  intro c hc
  have h1 := g.opening_le c (inside_of_leave hc)
  have h2 := openings_le_leave t b ticket
  omega

/-- Unless the closed circuit opens, the trials that stay are the ones that do not leave. -/
theorem trials_leave {t : Traffic} {b : Breaker} (h : t.circuit.opens b.circuit = false)
    (ticket : Nat) : (t.leave b ticket).trials = t.trials.filter (·.ticket != ticket) := by
  simp [trials, leave, without, h, List.filter_filter, Bool.and_comm]

/-- If nothing changes, a call that leaves keeps everything good. -/
theorem good_leave_same {t : Traffic} (g : Good t) (ticket : Nat) :
    Good (t.leave t.breaker ticket) := by
  have same : t.circuit.opens t.breaker.circuit = false := by
    unfold circuit
    cases t.breaker.circuit <;> rfl
  refine ⟨g.leave_opening_le _ _, ?_, ?_⟩
  · intro u hu
    rw [trials_leave same, g.opened_none u hu]
    rfl
  · intro trial ht
    obtain ⟨h1, h2⟩ := g.half_open_one trial ht
    rw [trials_leave same]
    exact ⟨h1, Nat.le_trans (List.length_filter_le _ _) h2⟩

theorem good_leave_closed {t : Traffic} {b : Breaker} {failures : Nat} (g : Good t)
    (h : b.circuit = .closed failures) (ticket : Nat) : Good (t.leave b ticket) where
  opening_le := g.leave_opening_le _ _
  opened_none := by simp [leave, circuit, h]
  half_open_one := by simp [leave, circuit, h]

/-- When the closed circuit opens, whatever is inside is from before this opening. -/
theorem good_leave_opening {t : Traffic} {b : Breaker} {failures : Nat} {u : Instant} (g : Good t)
    (hc : t.circuit = .closed failures) (h : b.circuit = .opened u) (ticket : Nat) :
    Good (t.leave b ticket) where
  opening_le := g.leave_opening_le _ _
  opened_none := by
    intro v _
    unfold trials
    refine List.filter_eq_nil_iff.mpr ?_
    intro c hin
    have hle := g.opening_le c (inside_of_leave hin)
    have next : (t.leave b ticket).openings = t.openings + 1 := by
      simp [leave, hc, h, Circuit.opens]
    simp only [next, decide_eq_true_eq]
    omega
  half_open_one := by simp [leave, circuit, h]

/-- When the trial leaves, there is none any more. -/
theorem good_leave_reopening {t : Traffic} {b : Breaker} {trial : Bool} {u : Instant} {c : Passed}
    (g : Good t) (hc : t.circuit = .halfOpen trial) (h : b.circuit = .opened u)
    (hin : c ∈ t.trials) : Good (t.leave b c.ticket) where
  opening_le := g.leave_opening_le _ _
  opened_none := by
    intro v _
    have only : t.trials = [c] := by
      match t.trials, hin, (g.half_open_one trial hc).2 with
      | [d], hd, _ => rw [List.mem_singleton.mp hd]
    rw [trials_leave (by rw [hc]; rfl), only]
    simp
  half_open_one := by simp [leave, circuit, h]

/-- In a half-open circuit that heeds no late call, a call that is heeded is a trial. -/
theorem trial_of_heeded {t : Traffic} {e : Event} {ticket : Nat} {success : Bool} (g : Good t)
    (he : e.ends? = some (ticket, success)) (hin : t.holds ticket = true)
    (hb : t.breaker.Heeds t.now success) (h : ¬ t.HeedsLate e) :
    ∃ c ∈ t.trials, c.ticket = ticket := by
  obtain ⟨c, hc, rfl⟩ := (holds_iff t ticket).mp hin
  have hnot : ¬ c.opening < t.openings := fun hlt => h ⟨c, hc, hlt, success, he, hb⟩
  have hle := g.opening_le c hc
  refine ⟨c, List.mem_filter.mpr ⟨hc, ?_⟩, rfl⟩
  simp only [decide_eq_true_eq]
  omega

theorem good_ending {t : Traffic} {e : Event} {ticket : Nat} {success : Bool} (g : Good t)
    (he : e.ends? = some (ticket, success))
    (h : t.circuit.isHalfOpen = true → ¬ t.HeedsLate e) : Good (t.ending ticket success) := by
  by_cases hb : t.breaker.Heeds t.now success
  · by_cases hin : t.holds ticket = true
    · obtain ⟨b, heq, -, hkind⟩ := ending_heeded t ticket success hin hb
      rw [heq]
      rcases hkind with ⟨failures, hf⟩ | ⟨u, hu⟩
      · exact good_leave_closed g hf ticket
      · cases hc : t.circuit with
        | closed failures => exact good_leave_opening g hc hu ticket
        | opened v =>
          unfold circuit at hc
          exact absurd hb (by simp [Heeds, hc])
        | halfOpen trial =>
          obtain ⟨c, hct, rfl⟩ := trial_of_heeded g he hin hb (h (by rw [hc]; rfl))
          exact good_leave_reopening g hc hu hct
    · unfold ending
      rw [if_neg hin]
      exact g
  · rcases ending_unheeded t ticket success hb with heq | heq <;> rw [heq]
    · exact g
    · exact good_leave_same g ticket

/-- An event keeps everything good, unless a half-open circuit heeds a late call over it. -/
theorem good_step {t : Traffic} {e : Event} (g : Good t)
    (h : t.circuit.isHalfOpen = true → ¬ t.HeedsLate e) : Good (t.step e) := by
  cases e with
  | ask => exact good_ask g
  | finish ticket success => exact good_ending g rfl h
  | drop ticket => exact good_ending g rfl h
  | wait millis => exact ⟨g.opening_le, g.opened_none, g.half_open_one⟩

/-- A half-open circuit that ceases to be one has heeded the end of a call. -/
theorem heeded_of_leaves_half_open {t : Traffic} {e : Event} (hhalf : t.circuit.isHalfOpen = true)
    (hnot : (t.step e).circuit.isHalfOpen = false) :
    ∃ ticket success, e.ends? = some (ticket, success) ∧ t.holds ticket = true ∧
      t.breaker.Heeds t.now success := by
  have ending : ∀ ticket success, (t.ending ticket success).circuit.isHalfOpen = false →
      t.holds ticket = true ∧ t.breaker.Heeds t.now success := by
    intro ticket success hend
    by_cases hb : t.breaker.Heeds t.now success
    · refine ⟨?_, hb⟩
      by_contra hin
      unfold Traffic.ending at hend
      rw [if_neg hin, hhalf] at hend
      cases hend
    · exfalso
      have same : (t.ending ticket success).circuit = t.circuit := by
        rcases ending_unheeded t ticket success hb with heq | heq <;> rw [heq]
        rfl
      rw [same, hhalf] at hend
      cases hend
  cases e with
  | ask =>
    exfalso
    obtain ⟨⟨name, settings, c⟩, now, inside, tickets, openings⟩ := t
    cases c with
    | closed failures => cases hhalf
    | opened u => cases hhalf
    | halfOpen trial =>
      cases trial with
      | true => cases hnot
      | false => cases hnot
  | finish ticket success => exact ⟨ticket, success, rfl, ending ticket success hnot⟩
  | drop ticket => exact ⟨ticket, false, rfl, ending ticket false hnot⟩
  | wait millis =>
    exfalso
    have same : (t.step (.wait millis)).circuit = t.circuit := rfl
    rw [same, hhalf] at hnot
    cases hnot

theorem trialRule_of_good {t : Traffic} {e : Event} (g : Good t)
    (h : t.circuit.isHalfOpen = true → ¬ t.HeedsLate e) : TrialRule t e where
  one_trial := (good_step g h).one_trial
  trial_decides := by
    intro hhalf hnot
    obtain ⟨ticket, success, he, hin, hb⟩ := heeded_of_leaves_half_open hhalf hnot
    obtain ⟨c, hc, hticket⟩ := trial_of_heeded g he hin hb (h hhalf)
    exact ⟨c, hc, success, by rw [hticket, he]⟩

/-! ## Runs -/

/-- Runs in which no half-open circuit heeds a late call keep everything good. -/
theorem good_run (t : Traffic) (g : Good t) (events : List Event)
    (h : ∀ past e, past ++ [e] <+: events → (t.run past).circuit.isHalfOpen = true →
      ¬ (t.run past).HeedsLate e) : Good (t.run events) := by
  induction events using List.reverseRecOn with
  | nil => exact g
  | append_singleton past e ih =>
    rw [run_snoc]
    refine good_step (ih ?_) (h past e (List.prefix_refl _))
    intro past' e' hp
    exact h past' e' (hp.trans (List.prefix_append _ _))

/-- The trial rule holds throughout as long as no half-open circuit heeds a late call. -/
theorem the_trial_rule_holds_unless_a_late_call_is_heeded (name : String) (settings : Settings)
    (now : Instant) (events : List Event)
    (h : ∀ past e, past ++ [e] <+: events →
      ((quiet name settings now).run past).circuit.isHalfOpen = true →
      ¬ ((quiet name settings now).run past).HeedsLate e)
    (past : List Event) (e : Event) (hp : past ++ [e] <+: events) :
    TrialRule ((quiet name settings now).run past) e := by
  refine trialRule_of_good (good_run _ (good_quiet _ _ _) past ?_) (h past e hp)
  intro past' e' hp'
  exact h past' e' (hp'.trans ((List.prefix_append past [e]).trans hp))

/-- A run is lawful throughout exactly if no call from before an opening is heeded in it. -/
theorem lawful_exactly_if_no_late_call_is_heeded (name : String) (settings : Settings)
    (now : Instant) (events : List Event) :
    (∀ past e, past ++ [e] <+: events → Lawful ((quiet name settings now).run past) e) ↔
      ∀ past e, past ++ [e] <+: events → ¬ ((quiet name settings now).run past).HeedsLate e := by
  constructor
  · intro h past e hp
    rintro ⟨c, hc, hlt, success, he, hb⟩
    have same := (h past e hp).late_changes_nothing c hc hlt success he
    have hin := (holds_iff _ c.ticket).mpr ⟨c, hc, rfl⟩
    obtain ⟨b, heq, hne, -⟩ := ending_heeded _ c.ticket success hin hb
    rw [step_of_ends _ _ _ _ he, heq] at same
    exact hne (congrArg Breaker.circuit same)
  · intro h past e hp
    refine ⟨the_trial_rule_holds_unless_a_late_call_is_heeded name settings now events
      (fun past' e' hp' _ => h past' e' hp') past e hp, ?_⟩
    intro c hc hlt success he
    have hnot : ¬ ((quiet name settings now).run past).breaker.Heeds
        ((quiet name settings now).run past).now success :=
      fun hb => h past e hp ⟨c, hc, hlt, success, he, hb⟩
    rw [step_of_ends _ _ _ _ he]
    rcases ending_unheeded _ c.ticket success hnot with heq | heq <;> rw [heq]
    rfl

/-- Two calls pass, one fails and opens the circuit, and the other fails during the trial. -/
def lateFailure : List Event :=
  [.ask, .ask, .finish 1 false, .wait 100, .ask, .finish 0 false, .wait 100, .ask]

/-- The late failure opens the circuit again, and a second trial joins the first. -/
theorem a_late_failure_lets_in_a_second_trial :
    ((quiet "test" ⟨1, 100⟩ 0).run lateFailure).circuit = .halfOpen true ∧
      ((quiet "test" ⟨1, 100⟩ 0).run lateFailure).trials = [⟨2, 1⟩, ⟨3, 1⟩] ∧
      ¬ ∀ past e, past ++ [e] <+: lateFailure →
        Lawful ((quiet "test" ⟨1, 100⟩ 0).run past) e := by
  refine ⟨by decide, by decide, ?_⟩
  intro h
  have two := (h (lateFailure.take 7) .ask (by decide)).one_trial (by decide)
  revert two
  decide

end Traffic

end ServiceMesh.Breaker
