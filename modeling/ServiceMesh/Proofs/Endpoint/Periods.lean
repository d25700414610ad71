-- The life of a breaker over calls that overlap: how far it counts, who is left
-- to resolve a half-open circuit, and for how long an open one keeps calls out.
import ServiceMesh.Proofs.Endpoint.Trials

namespace ServiceMesh.Breaker

/-! ## What an ask and an end make of a circuit -/

/-- A circuit before a call asks at `now`, whether the call passes, and the circuit after. -/
inductive Asked (now : Instant) : Circuit → Bool → Circuit → Prop where
  | closed (failures : Nat) : Asked now (.closed failures) true (.closed failures)
  | early (u : Instant) (h : now < u) : Asked now (.opened u) false (.opened u)
  | trial (u : Instant) (h : u ≤ now) : Asked now (.opened u) true (.halfOpen true)
  | next : Asked now (.halfOpen false) true (.halfOpen true)
  | busy : Asked now (.halfOpen true) false (.halfOpen true)

/-- A circuit before a call ends at `now`, how the call ends, and the circuit after. -/
inductive Ended (settings : Settings) (now : Instant) : Circuit → Bool → Circuit → Prop where
  | reset (failures : Nat) : Ended settings now (.closed failures) true (.closed 0)
  | counted (failures : Nat) (h : failures + 1 < settings.maxFailures) :
    Ended settings now (.closed failures) false (.closed (failures + 1))
  | tripped (failures : Nat) (h : settings.maxFailures ≤ failures + 1) :
    Ended settings now (.closed failures) false (.opened (now + settings.openFor))
  | recovered (trial : Bool) : Ended settings now (.halfOpen trial) true (.closed 0)
  | relapsed (trial : Bool) :
    Ended settings now (.halfOpen trial) false (.opened (now + settings.openFor))
  | late (u : Instant) (success : Bool) : Ended settings now (.opened u) success (.opened u)
  /-- The clock does not reach as far as the period would. -/
  | brokeOff (c : Circuit) (h : Instant.limit ≤ now + settings.openFor) :
    Ended settings now c false c

theorem enter_asked (b : Breaker) (now : Instant) :
    ∃ passed, Asked now b.circuit passed (b.enter now).1.circuit ∧
      (b.enter now).1.settings = b.settings ∧
      (b.enter now).2.2 = if passed then .ok () else .error b.rejection := by
  obtain ⟨name, settings, circuit⟩ := b
  unfold enter
  cases circuit with
  | closed failures => exact ⟨true, .closed failures, rfl, rfl⟩
  | opened u =>
    simp only
    by_cases hu : u ≤ now
    · rw [if_pos hu]
      exact ⟨true, .trial u hu, rfl, rfl⟩
    · rw [if_neg hu]
      exact ⟨false, .early u (Nat.lt_of_not_le hu), rfl, rfl⟩
  | halfOpen trial =>
    cases trial with
    | true => exact ⟨false, .busy, rfl, rfl⟩
    | false => exact ⟨true, .next, rfl, rfl⟩

/-- What a record gives, when it breaks off too: the breaker is then as it was. -/
theorem record_ended (b : Breaker) (now : Instant) (success : Bool) :
    ∃ b', Ended b.settings now b.circuit success b'.circuit ∧ b'.settings = b.settings ∧
      ((b.record now success).1 = .ok b' ∨
        b' = b ∧ (b.record now success).1 = .error .clockRange) := by
  obtain ⟨name, settings, circuit⟩ := b
  unfold record
  cases circuit with
  | closed failures =>
    cases success with
    | true => exact ⟨⟨name, settings, .closed 0⟩, .reset failures, rfl, Or.inl rfl⟩
    | false =>
      by_cases hmax : settings.maxFailures ≤ failures + 1
      · simp only [if_pos hmax]
        by_cases hr : now + settings.openFor < Instant.limit
        · exact ⟨_, .tripped failures hmax, rfl, Or.inl (openFrom_ok _ _ hr)⟩
        · exact ⟨_, .brokeOff _ (Nat.le_of_not_lt hr), rfl, Or.inr ⟨rfl, openFrom_error _ _ hr⟩⟩
      · simp only [if_neg hmax]
        exact ⟨⟨name, settings, .closed (failures + 1)⟩,
          .counted failures (Nat.lt_of_not_le hmax), rfl, Or.inl rfl⟩
  | opened u => exact ⟨_, .late u success, rfl, Or.inl rfl⟩
  | halfOpen trial =>
    cases success with
    | true => exact ⟨⟨name, settings, .closed 0⟩, .recovered trial, rfl, Or.inl rfl⟩
    | false =>
      by_cases hr : now + settings.openFor < Instant.limit
      · exact ⟨⟨name, settings, .opened (now + settings.openFor)⟩, .relapsed trial, rfl,
          Or.inl (openFrom_ok _ _ hr)⟩
      · exact ⟨_, .brokeOff _ (Nat.le_of_not_lt hr), rfl, Or.inr ⟨rfl, openFrom_error _ _ hr⟩⟩

/-- A closed circuit has counted fewer failures than open it, and a half-open one has its trial
under way. -/
def Circuit.KeepsCount (settings : Settings) : Circuit → Prop
  | .closed failures => failures < max 1 settings.maxFailures
  | .opened _ => True
  | .halfOpen trial => trial = true

theorem keepsCount_fresh (settings : Settings) : (Circuit.closed 0).KeepsCount settings :=
  Nat.lt_of_lt_of_le Nat.zero_lt_one (Nat.le_max_left 1 _)

theorem Asked.keepsCount {settings : Settings} {now : Instant} {before after : Circuit}
    {passed : Bool} (h : Asked now before passed after) (hb : before.KeepsCount settings) :
    after.KeepsCount settings := by
  cases h with
  | closed failures => exact hb
  | early u hu => trivial
  | trial u hu => rfl
  | next => rfl
  | busy => rfl

theorem Ended.keepsCount {settings : Settings} {now : Instant} {before after : Circuit}
    {success : Bool} (h : Ended settings now before success after)
    (hb : before.KeepsCount settings) : after.KeepsCount settings := by
  cases h with
  | reset failures => exact keepsCount_fresh settings
  | counted failures hlt => exact Nat.lt_of_lt_of_le hlt (Nat.le_max_right 1 _)
  | tripped failures hmax => trivial
  | recovered trial => exact keepsCount_fresh settings
  | relapsed trial => trivial
  | late u success => trivial
  | brokeOff c hr => exact hb

/-- Whether a failure is one too many for a circuit, so that it is to open. -/
def Circuit.Trips (settings : Settings) : Circuit → Prop
  | .closed failures => settings.maxFailures ≤ failures + 1
  | .opened _ => False
  | .halfOpen _ => True

theorem Ended.opens {settings : Settings} {now : Instant} {before after : Circuit}
    (h : Ended settings now before false after) (hb : before.Trips settings)
    (hr : now + settings.openFor < Instant.limit) : after = .opened (now + settings.openFor) := by
  cases h with
  | counted failures hlt => exact absurd hb (Nat.not_le.mpr hlt)
  | tripped failures hmax => rfl
  | relapsed trial => rfl
  | late u success => cases hb
  | brokeOff c hlimit => exact absurd hr (Nat.not_lt.mpr hlimit)

/-- Only a failure that the clock is too short for leaves a circuit half open. -/
theorem Ended.not_half_open {settings : Settings} {now : Instant} {before after : Circuit}
    {success : Bool} (h : Ended settings now before success after)
    (hr : success = true ∨ now + settings.openFor < Instant.limit) : after.isHalfOpen = false := by
  cases h with
  | reset failures => rfl
  | counted failures hlt => rfl
  | tripped failures hmax => rfl
  | recovered trial => rfl
  | relapsed trial => rfl
  | late u success => rfl
  | brokeOff c hlimit =>
    rcases hr with hr | hr
    · cases hr
    · exact absurd hr (Nat.not_lt.mpr hlimit)

/-- Whoever is refused by a half-open circuit was refused because it was half open. -/
theorem Asked.was_half_open {now : Instant} {before after : Circuit}
    (h : Asked now before false after) (ha : after.isHalfOpen = true) :
    before.isHalfOpen = true := by
  cases h with
  | early u hu => cases ha
  | busy => rfl

/-- From an open circuit a call passes when the period is over, and else nothing changes. -/
theorem Asked.of_opened {now u : Instant} {after : Circuit} {passed : Bool}
    (h : Asked now (.opened u) passed after) :
    if passed then u ≤ now else after = .opened u := by
  cases h with
  | early _ hu => rfl
  | trial _ hu => exact hu

theorem Ended.of_opened {settings : Settings} {now u : Instant} {after : Circuit} {success : Bool}
    (h : Ended settings now (.opened u) success after) : after = .opened u := by
  cases h with
  | late _ _ => rfl
  | brokeOff _ hr => rfl

theorem Asked.to_opened {now u : Instant} {before : Circuit} {passed : Bool}
    (h : Asked now before passed (.opened u)) : before = .opened u := by
  cases h with
  | early _ hu => rfl

/-- A circuit opens only for the period of its settings, from now on. -/
theorem Ended.to_opened {settings : Settings} {now u : Instant} {before : Circuit} {success : Bool}
    (h : Ended settings now before success (.opened u)) :
    before = .opened u ∨ u = now + settings.openFor := by
  cases h with
  | tripped failures hmax => exact Or.inr rfl
  | relapsed trial => exact Or.inr rfl
  | late _ _ => exact Or.inl rfl
  | brokeOff _ hr => exact Or.inl rfl

namespace Traffic

/-- What an event does to the traffic. -/
inductive Moves (t : Traffic) : Event → Traffic → Prop where
  | passes (b : Breaker) (hs : b.settings = t.breaker.settings)
      (h : Asked t.now t.circuit true b.circuit) :
    Moves t .ask { t with breaker := b, inside := t.inside ++ [⟨t.tickets, t.openings⟩],
                          tickets := t.tickets + 1 }
  | refused (b : Breaker) (hs : b.settings = t.breaker.settings)
      (h : Asked t.now t.circuit false b.circuit) :
    Moves t .ask { t with breaker := b }
  | ends (e : Event) (b : Breaker) (ticket : Nat) (success : Bool)
      (he : e.ends? = some (ticket, success)) (hin : t.holds ticket = true)
      (hs : b.settings = t.breaker.settings)
      (h : Ended t.breaker.settings t.now t.circuit success b.circuit) :
    Moves t e (t.leave b ticket)
  /-- Only a call that is inside can end. -/
  | nobody (e : Event) (ticket : Nat) (success : Bool)
      (he : e.ends? = some (ticket, success)) (hin : t.holds ticket = false) : Moves t e t
  | waits (millis : Nat) : Moves t (.wait millis) { t with now := t.now + millis }

theorem ask_moves (t : Traffic) : Moves t .ask t.ask := by
  obtain ⟨passed, hasked, hs, hanswer⟩ := enter_asked t.breaker t.now
  unfold ask
  match hb : t.breaker.enter t.now with
  | (b, notes, .ok ()) =>
    rw [hb] at hasked hs hanswer
    cases passed with
    | true => exact .passes b hs hasked
    | false => cases hanswer
  | (b, notes, .error failure) =>
    rw [hb] at hasked hs hanswer
    cases passed with
    | true => cases hanswer
    | false => exact .refused b hs hasked

theorem ending_moves (t : Traffic) (e : Event) (ticket : Nat) (success : Bool)
    (he : e.ends? = some (ticket, success)) : Moves t e (t.ending ticket success) := by
  unfold ending
  by_cases hin : t.holds ticket = true
  · rw [if_pos hin]
    obtain ⟨b, hended, hs, hb | ⟨rfl, hb⟩⟩ := record_ended t.breaker t.now success
    · rw [hb]
      exact .ends e b ticket success he hin hs hended
    · rw [hb]
      exact .ends e _ ticket success he hin hs hended
  · rw [if_neg hin]
    exact .nobody e ticket success he (by simpa using hin)

theorem step_moves (t : Traffic) (e : Event) : Moves t e (t.step e) := by
  cases e with
  | ask => exact ask_moves t
  | finish ticket success => exact ending_moves t _ ticket success rfl
  | drop ticket => exact ending_moves t _ ticket false rfl
  | wait millis => exact .waits millis

/-! ## How far a breaker counts, and who resolves its trial -/

/-- Whether a period that begins now ends within the range of the clock. -/
def InRange (t : Traffic) : Prop := t.now + t.breaker.settings.openFor < Instant.limit

/-- The state of a breaker with some settings, and of the calls inside. -/
structure Sound (settings : Settings) (t : Traffic) : Prop where
  same_settings : t.breaker.settings = settings
  keeps_count : t.circuit.KeepsCount settings
  /-- While the circuit is half open, somebody is inside who will end. -/
  somebody_inside : t.circuit.isHalfOpen = true → t.InRange → t.inside ≠ []

theorem sound_quiet (name : String) (settings : Settings) (now : Instant) :
    Sound settings (quiet name settings now) where
  same_settings := rfl
  keeps_count := keepsCount_fresh settings
  somebody_inside := by
    intro h
    cases h

theorem sound_step {settings : Settings} {t : Traffic} (s : Sound settings t) (e : Event) :
    Sound settings (t.step e) := by
  have moves := step_moves t e
  generalize t.step e = t' at moves
  cases moves with
  | passes b hs h =>
    exact ⟨hs.trans s.same_settings, h.keepsCount s.keeps_count, by simp⟩
  | refused b hs h =>
    refine ⟨hs.trans s.same_settings, h.keepsCount s.keeps_count, ?_⟩
    intro hhalf hr
    refine s.somebody_inside (h.was_half_open hhalf) ?_
    unfold InRange at hr ⊢
    rw [← hs]
    exact hr
  | ends _ b ticket success he hin hs h =>
    rw [s.same_settings] at h
    refine ⟨hs.trans s.same_settings, h.keepsCount s.keeps_count, ?_⟩
    intro hhalf hr
    have range : t.now + settings.openFor < Instant.limit := by
      rw [← hs.trans s.same_settings]
      exact hr
    have hnot := h.not_half_open (Or.inr range)
    exact absurd hhalf (by simp [leave, circuit, hnot])
  | nobody _ ticket success he hin => exact s
  | waits millis =>
    refine ⟨s.same_settings, s.keeps_count, ?_⟩
    intro hhalf hr
    refine s.somebody_inside hhalf ?_
    have earlier : t.now + t.breaker.settings.openFor ≤
        t.now + millis + t.breaker.settings.openFor :=
      Nat.add_le_add_right (Nat.le_add_right t.now millis) _
    exact Nat.lt_of_le_of_lt earlier hr

theorem sound_run {settings : Settings} {t : Traffic} (s : Sound settings t)
    (events : List Event) : Sound settings (t.run events) := by
  induction events using List.reverseRecOn with
  | nil => exact s
  | append_singleton past e ih =>
    rw [run_snoc]
    exact sound_step ih e

/-! ## How long an open circuit keeps calls out -/

/-- The traffic at some time after the circuit opened until `u`: either nobody has passed
since, or the period is over. -/
inductive Since (u : Instant) (tickets : Nat) (t : Traffic) : Prop where
  | shut (hc : t.circuit = .opened u) (ht : t.tickets = tickets)
  | lapsed (hu : u ≤ t.now) (ht : tickets < t.tickets)

theorem since_step {u : Instant} {tickets : Nat} {t : Traffic} (s : Since u tickets t)
    (e : Event) : Since u tickets (t.step e) := by
  have moves := step_moves t e
  generalize t.step e = t' at moves
  cases s with
  | shut hc ht =>
    cases moves with
    | passes b hs h =>
      rw [hc] at h
      exact .lapsed h.of_opened (by rw [← ht]; exact Nat.lt_succ_self t.tickets)
    | refused b hs h =>
      rw [hc] at h
      exact .shut h.of_opened ht
    | ends _ b ticket success he hin hs h =>
      rw [hc] at h
      exact .shut h.of_opened ht
    | nobody _ ticket success he hin => exact .shut hc ht
    | waits millis => exact .shut hc ht
  | lapsed hu ht =>
    cases moves with
    | passes b hs h => exact .lapsed hu (Nat.lt_succ_of_lt ht)
    | refused b hs h => exact .lapsed hu ht
    | ends _ b ticket success he hin hs h => exact .lapsed hu ht
    | nobody _ ticket success he hin => exact .lapsed hu ht
    | waits millis => exact .lapsed (Nat.le_add_right_of_le hu) ht

theorem since_run {u : Instant} {tickets : Nat} {t : Traffic} (s : Since u tickets t)
    (events : List Event) : Since u tickets (t.run events) := by
  induction events using List.reverseRecOn with
  | nil => exact s
  | append_singleton past e ih =>
    rw [run_snoc]
    exact since_step ih e

theorem period_of_opens {t : Traffic} {e : Event} {u : Instant} (hnot : t.circuit ≠ .opened u)
    (h : (t.step e).circuit = .opened u) : u = t.now + t.breaker.settings.openFor := by
  have moves := step_moves t e
  generalize t.step e = t' at moves h
  cases moves with
  | passes b hs hasked =>
    have hb : b.circuit = .opened u := h
    rw [hb] at hasked
    exact absurd hasked.to_opened hnot
  | refused b hs hasked =>
    have hb : b.circuit = .opened u := h
    rw [hb] at hasked
    exact absurd hasked.to_opened hnot
  | ends _ b ticket success he hin hs hended =>
    have hb : b.circuit = .opened u := h
    rw [hb] at hended
    exact hended.to_opened.resolve_left hnot
  | nobody _ ticket success he hin => exact absurd h hnot
  | waits millis => exact absurd h hnot

/-- What a circuit that opened at an instant `s` owes to its period, after any events since. -/
structure KeptOut (settings : Settings) (s : Instant) (opened t : Traffic) : Prop where
  /-- Before the period is over nobody has passed, and whoever asks is refused. -/
  nobody_before : t.now < s + settings.openFor →
    t.tickets = opened.tickets ∧ (t.breaker.enter t.now).2.2 = .error t.breaker.rejection
  /-- Who asks in vain and who ends late do not move the end of the period. -/
  not_moved : t.tickets = opened.tickets → t.circuit = .opened (s + settings.openFor)
  /-- The first to ask after the period passes. -/
  first_after : t.tickets = opened.tickets → s + settings.openFor ≤ t.now →
    (t.breaker.enter t.now).2.2 = .ok ()

theorem keptOut_of_since {settings : Settings} {s : Instant} {opened t : Traffic}
    (h : Since (s + settings.openFor) opened.tickets t) : KeptOut settings s opened t := by
  cases h with
  | shut hc ht =>
    unfold circuit at hc
    refine ⟨?_, fun _ => hc, ?_⟩
    · intro hlt
      refine ⟨ht, ?_⟩
      unfold enter
      rw [hc]
      simp only [if_neg (Nat.not_le.mpr hlt)]
    · intro _ hle
      unfold enter
      rw [hc]
      simp only [if_pos hle]
  | lapsed hu ht =>
    refine ⟨?_, ?_, ?_⟩
    · intro hlt
      exact absurd hlt (Nat.not_lt.mpr hu)
    · intro hsame
      exact absurd hsame (Nat.ne_of_gt ht)
    · intro hsame
      exact absurd hsame (Nat.ne_of_gt ht)

/-! ## The laws of a breaker's life -/

/-- The laws that hold of a breaker with some settings in every state, and over all that may
follow. -/
structure Steady (settings : Settings) (t : Traffic) : Prop where
  /-- A closed circuit has counted fewer failures than open it. -/
  failures_lt : ∀ failures, t.circuit = .closed failures → failures < max 1 settings.maxFailures
  /-- So one more failure fits the counter, if the limit does. -/
  counter_fits : settings.maxFailures < UInt32.size →
    ∀ failures, t.circuit = .closed failures → failures + 1 < UInt32.size
  /-- A half-open circuit takes its trial to be under way. -/
  trial_under_way : ∀ trial, t.circuit = .halfOpen trial → trial = true
  /-- Whenever the circuit opens next, it keeps calls out for its whole period. -/
  keeps_out : ∀ e u, t.circuit ≠ .opened u → (t.step e).circuit = .opened u →
    ∀ later, KeptOut settings t.now (t.step e) ((t.step e).run later)

/-- Moreover, a circuit that is to open opens, and a half-open one does not stay so. -/
structure Disciplined (settings : Settings) (t : Traffic) : Prop extends Steady settings t where
  /-- A failure that is noted as one too many begins a period. -/
  failure_opens : t.circuit.Trips settings → ∀ e ticket, e.ends? = some (ticket, false) →
    t.holds ticket = true → (t.step e).circuit = .opened (t.now + settings.openFor)
  /-- Somebody is inside a half-open circuit. -/
  somebody_inside : t.circuit.isHalfOpen = true → t.inside ≠ []
  /-- Whoever is inside resolves a half-open circuit by ending, however that is. -/
  end_resolves : t.circuit.isHalfOpen = true → ∀ e ticket success,
    e.ends? = some (ticket, success) → t.holds ticket = true →
    (t.step e).circuit.isHalfOpen = false

theorem Sound.failures_lt {settings : Settings} {t : Traffic} (s : Sound settings t)
    (failures : Nat) (hc : t.circuit = .closed failures) :
    failures < max 1 settings.maxFailures := by
  have count := s.keeps_count
  rw [hc] at count
  exact count

theorem Sound.trial_under_way {settings : Settings} {t : Traffic} (s : Sound settings t)
    (trial : Bool) (hc : t.circuit = .halfOpen trial) : trial = true := by
  have count := s.keeps_count
  rw [hc] at count
  exact count

theorem Sound.inRange_iff {settings : Settings} {t : Traffic} (s : Sound settings t) :
    t.InRange ↔ t.now + settings.openFor < Instant.limit := by
  unfold InRange
  rw [s.same_settings]

theorem Sound.steady {settings : Settings} {t : Traffic} (s : Sound settings t) :
    Steady settings t where
  failures_lt := s.failures_lt
  counter_fits := by
    intro hmax failures hc
    have hlt := s.failures_lt failures hc
    have hone : 1 < UInt32.size := by decide
    omega
  trial_under_way := s.trial_under_way
  keeps_out := by
    intro e u hnot hopen later
    have hu := period_of_opens hnot hopen
    rw [s.same_settings] at hu
    subst hu
    exact keptOut_of_since (since_run (.shut hopen rfl) later)

/-- Whoever is inside ends as an end of the library does. -/
theorem ended_of_holds {t : Traffic} {e : Event} {ticket : Nat} {success : Bool}
    (he : e.ends? = some (ticket, success)) (hin : t.holds ticket = true) :
    Ended t.breaker.settings t.now t.circuit success (t.step e).circuit := by
  have moves := step_moves t e
  generalize t.step e = t' at moves
  cases moves with
  | passes b hs h => cases he
  | refused b hs h => cases he
  | ends _ b n outcome hn hholds hs h =>
    rw [he] at hn
    cases hn
    exact h
  | nobody _ n outcome hn hnot =>
    rw [he] at hn
    cases hn
    rw [hin] at hnot
    cases hnot
  | waits millis => cases he

/-- A failure that the clock is too short for leaves the circuit as it is. -/
theorem failure_lost {t : Traffic} (htrips : t.circuit.Trips t.breaker.settings)
    (hr : ¬ t.InRange) (ticket : Nat) : (t.step (.finish ticket false)).circuit = t.circuit := by
  have unheeded : ¬ t.breaker.Heeds t.now false := by
    unfold Heeds
    unfold circuit at htrips
    cases hc : t.breaker.circuit with
    | closed failures =>
      rw [hc] at htrips
      have hmax : ¬ failures + 1 < t.breaker.settings.maxFailures := Nat.not_lt.mpr htrips
      simpa [InRange, hmax] using hr
    | opened u => exact id
    | halfOpen trial => simpa [InRange] using hr
  show (t.ending ticket false).circuit = t.circuit
  rcases ending_unheeded t ticket false unheeded with h | h <;> rw [h]
  rfl

/-- Whether a failure may come next that is to open the circuit: somebody is inside who may fail,
or ought to be. -/
def MayTrip (settings : Settings) (t : Traffic) : Prop :=
  t.circuit.Trips settings ∧ (t.circuit.isHalfOpen = true ∨ t.inside ≠ [])

theorem mayTrip_of_half_open {settings : Settings} {t : Traffic}
    (h : t.circuit.isHalfOpen = true) : MayTrip settings t := by
  refine ⟨?_, .inl h⟩
  cases hc : t.circuit with
  | halfOpen trial => trivial
  | closed failures | opened u =>
    rw [hc] at h
    cases h

/-- After any events a breaker counts less than its limit and keeps its periods. That a circuit
opens when it is to, and that a half-open one is resolved, holds exactly as long as the clock
reaches to the end of a period that would begin then. -/
theorem a_circuit_opens_and_resolves_exactly_if_its_period_is_in_range (name : String)
    (settings : Settings) (now : Instant) (events : List Event) :
    Steady settings ((quiet name settings now).run events) ∧
      (Disciplined settings ((quiet name settings now).run events) ↔
        (MayTrip settings ((quiet name settings now).run events) →
          ((quiet name settings now).run events).now + settings.openFor < Instant.limit)) := by
  have sound := sound_run (sound_quiet name settings now) events
  generalize (quiet name settings now).run events = t at sound
  refine ⟨sound.steady, ?_, ?_⟩
  · rintro disciplined ⟨htrips, hsome⟩
    by_contra hout
    have hr := mt sound.inRange_iff.mp hout
    have inside : t.inside ≠ [] := hsome.elim disciplined.somebody_inside id
    obtain ⟨c, hc⟩ := List.exists_mem_of_ne_nil _ inside
    have hin : t.holds c.ticket = true := (holds_iff t c.ticket).mpr ⟨c, hc, rfl⟩
    have opened := disciplined.failure_opens htrips (.finish c.ticket false) _ rfl hin
    rw [failure_lost (by rw [sound.same_settings]; exact htrips) hr] at opened
    rw [opened] at htrips
    exact htrips
  · intro hrange
    refine ⟨sound.steady, ?_, ?_, ?_⟩
    · intro htrips e ticket he hin
      obtain ⟨c, hc, -⟩ := (holds_iff t ticket).mp hin
      have ended := ended_of_holds he hin
      rw [sound.same_settings] at ended
      exact ended.opens htrips (hrange ⟨htrips, .inr (List.ne_nil_of_mem hc)⟩)
    · intro hhalf
      exact sound.somebody_inside hhalf
        (sound.inRange_iff.mpr (hrange (mayTrip_of_half_open hhalf)))
    · intro hhalf e ticket success he hin
      have ended := ended_of_holds he hin
      rw [sound.same_settings] at ended
      exact ended.not_half_open (.inr (hrange (mayTrip_of_half_open hhalf)))

/-- A call refused and a call given up during the period leave its end where it was. -/
example : ((quiet "test" ⟨2, 100⟩ 0).run [.ask, .ask, .ask, .finish 0 false, .finish 1 false,
    .wait 99, .ask, .drop 2]).circuit = .opened 100 := by decide

/-- A half-open circuit that nobody is inside of stays like that. -/
theorem stuck_run {t : Traffic} (hc : t.circuit = .halfOpen true) (hin : t.inside = [])
    (events : List Event) :
    (t.run events).circuit = .halfOpen true ∧ (t.run events).inside = [] := by
  induction events using List.reverseRecOn with
  | nil => exact ⟨hc, hin⟩
  | append_singleton past e ih =>
    obtain ⟨hc', hin'⟩ := ih
    rw [run_snoc]
    have moves := step_moves (t.run past) e
    generalize (t.run past).step e = t' at moves
    cases moves with
    | passes b hs h =>
      rw [hc'] at h
      cases h
    | refused b hs h =>
      rw [hc'] at h
      generalize hb : b.circuit = after at h
      cases h with
      | busy => exact ⟨hb, hin'⟩
    | ends _ b ticket success he hheld hs h =>
      unfold holds at hheld
      rw [hin'] at hheld
      cases hheld
    | nobody _ ticket success he hheld => exact ⟨hc', hin'⟩
    | waits millis => exact ⟨hc', hin'⟩

/-- The longest period that a number of seconds in 64 bits can tell of. -/
def longest : Settings := ⟨1, 18446744073709551615000⟩

/-- A circuit opens for 5·10¹⁸ seconds. After them its trial fails, at an instant from which the
clock does not reach as far again. -/
def lostTrial : List Event :=
  [.ask, .finish 0 false, .wait 5000000000000000000000, .ask, .finish 1 false]

/-- A circuit is noted as opened over a failure, stays closed and lets the next call pass at once.
One whose trial fails too late stays half open with nobody inside to resolve it, and whoever asks
from then on is refused. -/
theorem periods_beyond_the_clock_are_lost :
    (((quiet "test" longest 0).run [.ask]).breaker.record 0 false).2 =
        [.log .warn "circuit opened" [("breaker", .text "test"), ("failures", .int 1)]] ∧
      ((quiet "test" longest 0).run [.ask, .finish 0 false]).circuit = .closed 0 ∧
      ¬ Disciplined longest ((quiet "test" longest 0).run [.ask]) ∧
      ¬ Disciplined ⟨1, 5000000000000000000000⟩
        ((quiet "test" ⟨1, 5000000000000000000000⟩ 0).run lostTrial) ∧
      ∀ later t, t = ((quiet "test" ⟨1, 5000000000000000000000⟩ 0).run lostTrial).run later →
        t.circuit = .halfOpen true ∧ t.inside = [] ∧
          (t.breaker.enter t.now).2.2 = .error t.breaker.rejection := by
  have hclosed : ((quiet "test" longest 0).run [.ask, .finish 0 false]).circuit = .closed 0 := by
    decide +kernel
  have hc : ((quiet "test" ⟨1, 5000000000000000000000⟩ 0).run lostTrial).circuit =
      .halfOpen true := by decide +kernel
  have hin : ((quiet "test" ⟨1, 5000000000000000000000⟩ 0).run lostTrial).inside = [] := by
    decide +kernel
  refine ⟨by decide +kernel, hclosed, ?_, ?_, ?_⟩
  · intro disciplined
    have opened : ((quiet "test" longest 0).run [.ask, .finish 0 false]).circuit =
        .opened longest.openFor :=
      disciplined.failure_opens (Nat.le_refl 1) (.finish 0 false) 0 rfl rfl
    rw [hclosed] at opened
    cases opened
  · intro disciplined
    exact disciplined.somebody_inside (by rw [hc]; rfl) hin
  · rintro later t rfl
    obtain ⟨hstuck, hnobody⟩ := stuck_run hc hin later
    refine ⟨hstuck, hnobody, ?_⟩
    unfold circuit at hstuck
    unfold enter
    rw [hstuck]

end Traffic

end ServiceMesh.Breaker
