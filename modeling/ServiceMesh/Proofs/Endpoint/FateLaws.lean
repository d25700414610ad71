-- The law of calls one after another through the layers of an operation: each has one of three
-- fates, unless it opens the circuit for longer than the clock reaches.
import ServiceMesh.Proofs.Endpoint.Fates

namespace ServiceMesh

open Breaker (Admitted afterAll during)
open Breaker.Visit (outside)

/-- A run whose steps keep what is good as long as nothing goes wrong: if a step from there is
lawful exactly if it does not go wrong, then all are exactly if none does. -/
theorem lawful_iff_none_wrong {σ ε : Type} {step : σ → ε → σ} {Good : σ → Prop}
    {Lawful Wrong : σ → ε → Prop} {s : σ} (good : Good s) (events : List ε)
    (keeps : ∀ past e, past ++ [e] <+: events → Good (past.foldl step s) →
      ¬ Wrong (past.foldl step s) e → Good (step (past.foldl step s) e))
    (same : ∀ past e, past ++ [e] <+: events → Good (past.foldl step s) →
      (Lawful (past.foldl step s) e ↔ ¬ Wrong (past.foldl step s) e)) :
    (∀ past e, past ++ [e] <+: events → Lawful (past.foldl step s) e) ↔
      ∀ past e, past ++ [e] <+: events → ¬ Wrong (past.foldl step s) e := by
  have reach : ∀ past, past <+: events →
      (∀ past' e, past' ++ [e] <+: past → Good (past'.foldl step s) →
        ¬ Wrong (past'.foldl step s) e) → Good (past.foldl step s) := by
    intro past
    induction past using List.reverseRecOn with
    | nil => exact fun _ _ => good
    | append_singleton past e ih =>
      intro hp right
      have before : Good (past.foldl step s) := by
        refine ih ((List.prefix_append _ _).trans hp) ?_
        intro past' e' hp'
        exact right past' e' (hp'.trans (List.prefix_append _ _))
      rw [List.foldl_append]
      exact keeps past e hp before (right past e (List.prefix_refl _) before)
  constructor
  · intro lawful past e hp
    have shorter := (List.prefix_append past [e]).trans hp
    have here := reach past shorter fun past' e' hp' g =>
      (same past' e' (hp'.trans shorter) g).mp (lawful past' e' (hp'.trans shorter))
    exact (same past e hp here).mp (lawful past e hp)
  · intro right past e hp
    have shorter := (List.prefix_append past [e]).trans hp
    have here := reach past shorter fun past' e' hp' _ => right past' e' (hp'.trans shorter)
    exact (same past e hp here).mpr (right past e hp)

/-- An operation within its layers, and the calls so far. -/
structure Desk (α : Type) where
  session : Session α
  /-- When calls have asked, on the clock of limiters, in their order. -/
  asked : List Nat := []
  /-- The calls that the inner endpoint was asked, the latest first. -/
  inner : List Admitted := []

namespace Desk

variable {α : Type}

/-- Layers that no call has asked yet. -/
def fresh (chain : Chain) (now : Moment) : Desk α := { session := outside chain now 0 }

def outcome (d : Desk α) (c : Call α) : Outcome (Session α) (Except Failure α) :=
  c.act.run d.session

def next (d : Desk α) (c : Call α) : Desk α where
  session := (d.outcome c).state
  asked := d.asked ++ [c.nanos]
  inner :=
    if d.session.reached < (d.outcome c).state.reached then
      ⟨(d.outcome c).state.guard.now.millis, c.result.isOk⟩ :: d.inner
    else d.inner

/-- When a call asks the breaker. -/
def asks (d : Desk α) (c : Call α) : Instant := d.session.guard.now.millis + c.pause

/-- When it ends, if the inner endpoint is asked. -/
def ends (d : Desk α) (c : Call α) : Instant := d.asks c + c.took

section

variable (config : EndpointConfig) (method : String)

/-- So many calls were made before that the limiter refuses the next. -/
def Limited (d : Desk α) : Prop := config.rate ≠ 0 ∧ config.rate ≤ d.asked.length

/-- The breaker refuses the next call, going by the calls of the inner endpoint. -/
def Shut (d : Desk α) (c : Call α) : Prop := config.settings.Refuses d.inner (d.asks c)

/-- The fate of a call, told by the calls before. -/
structure HasFate (d : Desk α) (c : Call α) : Prop where
  /-- The breaker is as the outcomes and times of the inner endpoint's calls make it. -/
  breaker : d.session.guard.chain.breakers = [afterAll method config.settings d.inner]
  /-- The limiter refuses it: no layer and no note tells of it, nor does the inner endpoint. -/
  limited : d.Limited config → ∃ wait, (d.outcome c).result =
      .ok (.error (.tooManyRequests "Rate limit exceeded" (some wait))) ∧
    (d.outcome c).state.guard.chain = d.session.guard.chain ∧
    (d.outcome c).state.reached = d.session.reached ∧ (d.outcome c).notes = []
  /-- The breaker refuses it: only the limiter has counted it. -/
  refused : ¬ d.Limited config → d.Shut config c →
    (d.outcome c).result =
      .ok (.error (.unavailable ("circuit breaker \x27" ++ method ++ "\x27 is open"))) ∧
    (d.outcome c).state.guard.chain = config.layers method (d.asked ++ [c.nanos])
      (afterAll method config.settings d.inner) ∧
    (d.outcome c).state.reached = d.session.reached ∧ (d.outcome c).notes = []
  /-- The inner endpoint is asked once, and the call ends as it ends there; one observation and
  one event tell so. -/
  served : ¬ d.Limited config → ¬ d.Shut config c →
    (d.outcome c).result = .ok c.result ∧
    (d.outcome c).state.guard.chain = config.layers method (d.asked ++ [c.nanos])
      (afterAll method config.settings (⟨d.ends c, c.result.isOk⟩ :: d.inner)) ∧
    (d.outcome c).state.reached = d.session.reached + 1 ∧
    (d.outcome c).notes.filter Note.ofCall = c.notes.filter Note.ofCall ++
      [Note.observed method c.result.isOk, Note.logged (c.result.map fun _ => ())]

/-- A call of the inner endpoint fails and opens the circuit for longer than the clock reaches. -/
def Overrun (d : Desk α) (c : Call α) : Prop :=
  ¬ d.Limited config ∧ ¬ d.Shut config c ∧ c.result.isOk = false ∧
    config.settings.Overruns d.inner (d.ends c)

/-- The layers are as the calls so far make them, and nobody is inside. -/
structure Good (d : Desk α) : Prop where
  standing : d.session = outside
    (config.layers method d.asked (afterAll method config.settings d.inner))
    d.session.guard.now d.session.reached
  counts : config.settings.Counts d.inner

/-- Calls ask the limiter, if there is one, in order and within less than one of its periods. -/
def Brief (asked : List Nat) : Prop := config.rate ≠ 0 → Limiter.Brief config.quota.period asked

end

variable {config : EndpointConfig} {method : String} {d : Desk α} {c : Call α}

/-! ## One call -/

theorem outcome_eq {chain : Chain}
    (h : d.session = outside chain d.session.guard.now d.session.reached) :
    d.outcome c = c.act.run (outside chain d.session.guard.now d.session.reached) := by
  unfold outcome
  rw [← h]

/-- The limiter refuses a call, and goes on as if it had not been made. -/
theorem outcome_limited (g : Good config method d) (brief : Brief config (d.asked ++ [c.nanos]))
    (h : d.Limited config) :
    (∃ wait, d.outcome c = ⟨.ok (.error (.tooManyRequests "Rate limit exceeded" (some wait))),
      outside (config.layers method d.asked (afterAll method config.settings d.inner))
        ⟨d.asks c, c.nanos + 1⟩ d.session.reached, []⟩) ∧
    ∀ b, config.layers method (d.asked ++ [c.nanos]) b = config.layers method d.asked b := by
  obtain ⟨hr, many⟩ := h
  obtain ⟨first, hfirst⟩ : ∃ first, d.asked.head? = some first := by
    cases hasked : d.asked with
    | nil =>
      rw [hasked] at many
      exact absurd (Nat.le_zero.mp many) hr
    | cons first rest => exact ⟨first, rfl⟩
  obtain ⟨check, same⟩ := Limiter.check_spentBy_refuses (brief hr) hfirst many
  constructor
  · have entered := EndpointConfig.enter_limited (c.asks d.session.guard.now) method
      (afterAll method config.settings d.inner) hr check
    have ran := c.run_refused d.session.reached entered
    rw [← outcome_eq g.standing] at ran
    exact ⟨_, ran⟩
  · intro b
    unfold EndpointConfig.layers
    rw [same]

/-- The limiter lets a call through, and counts it. -/
theorem check_passes (brief : Brief config (d.asked ++ [c.nanos])) (h : ¬ d.Limited config)
    (hr : config.rate ≠ 0) : (Limiter.spentBy config.quota d.asked).check c.nanos =
      .ok (Limiter.spentBy config.quota (d.asked ++ [c.nanos])) := by
  refine Limiter.check_spentBy_passes (brief hr) ?_
  rw [← Nat.not_le]
  exact fun many => h ⟨hr, many⟩

theorem outcome_refused (g : Good config method d) (brief : Brief config (d.asked ++ [c.nanos]))
    (h : ¬ d.Limited config) (shut : d.Shut config c) :
    d.outcome c = ⟨.ok (.error (.unavailable ("circuit breaker \x27" ++ method ++ "\x27 is open"))),
      outside (config.layers method (d.asked ++ [c.nanos])
        (afterAll method config.settings d.inner)) ⟨d.asks c, c.nanos + 1⟩ d.session.reached,
      []⟩ := by
  rw [outcome_eq g.standing]
  exact c.run_refused _ (EndpointConfig.enter_layers (c.asks d.session.guard.now) method
    (check_passes brief h) (Breaker.enter_refused method shut))

/-- What comes of a call of the inner endpoint, as the breaker records it. -/
theorem outcome_served (g : Good config method d) (brief : Brief config (d.asked ++ [c.nanos]))
    (h : ¬ d.Limited config) (passes : ¬ d.Shut config c) {b : Breaker} {recorded : List Note}
    {crash : Option Crash}
    (hrecorded : Breaker.recorded (during method config.settings d.inner) (d.ends c)
      c.result.isOk = ⟨[.breaker b], recorded, crash⟩) :
    ∃ notes p, p.chain = config.layers method (d.asked ++ [c.nanos]) b ∧ p.crash = crash ∧
      d.outcome c = ⟨Guard.passed p c.result,
        outside p.chain ⟨d.ends c, c.nanos + 2⟩ (d.session.reached + 1), notes⟩ ∧
      notes.filter Note.ofCall = c.notes.filter Note.ofCall ++
        [Note.observed method c.result.isOk, Note.logged (c.result.map fun _ => ())] := by
  obtain ⟨entered, henter⟩ := Breaker.enter_admitted method passes
  have admitted := EndpointConfig.enter_layers (c.asks d.session.guard.now) method
    (check_passes brief h) henter
  have same : (c.result.map fun _ => ()).isOk = c.result.isOk := by
    cases c.result <;> rfl
  rw [← same] at hrecorded
  have left := EndpointConfig.leave_layers ⟨d.ends c, c.nanos + 1⟩ config method
    (d.asked ++ [c.nanos]) hrecorded
  have ran := c.run_served d.session.reached admitted left
  rw [← outcome_eq g.standing] at ran
  refine ⟨_, _, rfl, rfl, ran, ?_⟩
  have quiet_in := (afterAll method config.settings d.inner).enter_notes (d.asks c)
  have quiet_out := (during method config.settings d.inner).recorded_notes (d.ends c)
    (c.result.map fun _ => ()).isOk
  rw [henter] at quiet_in
  rw [hrecorded] at quiet_out
  simp only [List.filter_append, quiet_in, quiet_out, same, List.nil_append, List.append_nil]
  rw [List.filter_cons_of_pos (Note.ofCall_observed _ _),
    List.filter_cons_of_pos (Note.ofCall_logged _), List.filter_nil]

theorem in_time (h : ¬ d.Limited config) (passes : ¬ d.Shut config c)
    (hover : ¬ d.Overrun config c) :
    c.result.isOk = true ∨ ¬ config.settings.Overruns d.inner (d.ends c) := by
  by_contra hnot
  rw [not_or, not_not, Bool.not_eq_true] at hnot
  exact hover ⟨h, passes, hnot.1, hnot.2⟩

/-- A call of the inner endpoint that does not overrun ends as it ends there. -/
theorem outcome_in_time (g : Good config method d) (brief : Brief config (d.asked ++ [c.nanos]))
    (h : ¬ d.Limited config) (passes : ¬ d.Shut config c) (hover : ¬ d.Overrun config c) :
    ∃ notes, d.outcome c = ⟨.ok c.result,
        outside (config.layers method (d.asked ++ [c.nanos])
          (afterAll method config.settings (⟨d.ends c, c.result.isOk⟩ :: d.inner)))
          ⟨d.ends c, c.nanos + 2⟩ (d.session.reached + 1), notes⟩ ∧
      notes.filter Note.ofCall = c.notes.filter Note.ofCall ++
        [Note.observed method c.result.isOk, Note.logged (c.result.map fun _ => ())] := by
  obtain ⟨recorded, hrecorded⟩ :=
    Breaker.recorded_in_time method g.counts (in_time h passes hover)
  obtain ⟨notes, p, hchain, hcrash, ran, noted⟩ := outcome_served g brief h passes hrecorded
  rw [Guard.passed_ok hcrash, hchain] at ran
  exact ⟨notes, ran, noted⟩

/-- A call that overruns breaks off. -/
theorem outcome_overrun (g : Good config method d) (brief : Brief config (d.asked ++ [c.nanos]))
    (hover : d.Overrun config c) : (d.outcome c).result = .error .clockRange := by
  obtain ⟨h, passes, failed, reach⟩ := hover
  obtain ⟨recorded, hrecorded⟩ := Breaker.recorded_overrun method g.counts reach
  rw [← failed] at hrecorded
  obtain ⟨notes, p, -, hcrash, ran, -⟩ := outcome_served g brief h passes hrecorded
  rw [ran]
  exact Guard.passed_error hcrash _

/-- A call has its fate exactly if it does not overrun. -/
theorem hasFate_iff (g : Good config method d) (brief : Brief config (d.asked ++ [c.nanos])) :
    d.HasFate config method c ↔ ¬ d.Overrun config c := by
  constructor
  · intro fate hover
    have broken := outcome_overrun g brief hover
    rw [(fate.served hover.1 hover.2.1).1] at broken
    cases broken
  · intro hover
    have before : d.session.guard.chain =
        config.layers method d.asked (afterAll method config.settings d.inner) := by
      rw [g.standing]
      rfl
    refine ⟨?_, ?_, ?_, ?_⟩
    · rw [before, EndpointConfig.breakers_layers]
    · intro h
      obtain ⟨⟨wait, ran⟩, -⟩ := outcome_limited g brief h
      rw [ran, before]
      exact ⟨wait, rfl, rfl, rfl, rfl⟩
    · intro h shut
      rw [outcome_refused g brief h shut]
      exact ⟨rfl, rfl, rfl, rfl⟩
    · intro h passes
      obtain ⟨notes, ran, noted⟩ := outcome_in_time g brief h passes hover
      rw [ran]
      exact ⟨rfl, rfl, rfl, noted⟩

/-! ## Runs -/

theorem good_fresh (config : EndpointConfig) (method : String) (now : Moment) :
    (fresh (config.layers method [] (afterAll method config.settings [])) now :
      Desk α).Good config method where
  standing := rfl
  counts := by
    intro _
    exact Nat.lt_of_lt_of_le Nat.zero_lt_one (Nat.le_max_left 1 _)

theorem good_next (g : Good config method d) (brief : Brief config (d.asked ++ [c.nanos]))
    (hover : ¬ d.Overrun config c) : (d.next c).Good config method := by
  unfold next
  by_cases h : d.Limited config
  · obtain ⟨⟨wait, ran⟩, same⟩ := outcome_limited g brief h
    rw [ran]
    simp only [outside, Nat.lt_irrefl, if_false]
    refine ⟨?_, g.counts⟩
    rw [same]
    rfl
  · by_cases shut : d.Shut config c
    · rw [outcome_refused g brief h shut]
      simp only [outside, Nat.lt_irrefl, if_false]
      exact ⟨rfl, g.counts⟩
    · obtain ⟨notes, ran, -⟩ := outcome_in_time g brief h shut hover
      rw [ran]
      simp only [outside, Nat.lt_succ_self, if_true]
      exact ⟨rfl, Breaker.counts_cons g.counts _ _⟩

def run (d : Desk α) (calls : List (Call α)) : Desk α := calls.foldl next d

theorem run_snoc (d : Desk α) (past : List (Call α)) (c : Call α) :
    d.run (past ++ [c]) = (d.run past).next c := List.foldl_append

theorem asked_run (chain : Chain) (now : Moment) (calls : List (Call α)) :
    ((fresh chain now).run calls).asked = calls.map (·.nanos) := by
  induction calls using List.reverseRecOn with
  | nil => rfl
  | append_singleton past c ih =>
    rw [run_snoc, List.map_append, ← ih]
    rfl

section

variable {chain : Chain} {now : Moment} {calls : List (Call α)}

theorem brief_before (brief : Brief config (calls.map (·.nanos))) {past : List (Call α)}
    (hp : past ++ [c] <+: calls) :
    Brief config (((fresh chain now).run past).asked ++ [c.nanos]) := by
  intro hr
  have part := hp.sublist.map (·.nanos)
  rw [List.map_append] at part
  rw [asked_run]
  exact (brief hr).sublist part

end

/-- Calls one after another, within one period of the limiter: each is refused by the limiter, or
by the breaker, or asked of the inner endpoint once, as the calls before it say, exactly if none
of them opens the circuit for longer than the clock reaches. -/
theorem each_call_has_its_fate_exactly_if_none_overruns (config : EndpointConfig)
    (hr : config.rate < UInt32.size) (method : String) (now : Moment) (calls : List (Call α))
    (brief : config.rate ≠ 0 → Limiter.Brief config.quota.period (calls.map (·.nanos))) :
    ∃ chain, Chain.standard method config.rate config.maxFailures config.openSeconds = .ok chain ∧
      ((∀ past c, past ++ [c] <+: calls →
          ((fresh chain now).run past).HasFate config method c) ↔
        ∀ past c, past ++ [c] <+: calls → ¬ ((fresh chain now).run past).Overrun config c) := by
  refine ⟨_, EndpointConfig.standard_eq hr method, ?_⟩
  refine lawful_iff_none_wrong (good_fresh config method now) calls ?_ ?_
  · intro past c hp good
    exact good_next good (brief_before brief hp)
  · intro past c hp good
    exact hasFate_iff good (brief_before brief hp)

/-- With one call a second, the second is refused by the limiter. -/
theorem one_call_a_second_lets_no_second_in :
    let config : EndpointConfig := { rate := 1 }
    let first : Call Nat := ⟨0, 0, 0, [], .ok 1⟩
    let second : Call Nat := ⟨0, 5, 0, [], .ok 2⟩
    config.rate < UInt32.size ∧
      Limiter.Brief config.quota.period ([first, second].map (·.nanos)) ∧
      ∃ chain, Chain.standard "sum" 1 5 30 = .ok chain ∧
        ((fresh chain ⟨0, 0⟩).outcome first).result = .ok (.ok 1) ∧
        ∃ wait, (((fresh chain ⟨0, 0⟩).run [first]).outcome second).result =
          .ok (.error (.tooManyRequests "Rate limit exceeded" (some wait))) := by
  intro config first second
  have small : config.rate < UInt32.size := by decide
  have brief : Limiter.Brief config.quota.period ([first, second].map (·.nanos)) := by
    constructor <;> decide
  obtain ⟨chain, hchain, fates⟩ := each_call_has_its_fate_exactly_if_none_overruns config small
    "sum" ⟨0, 0⟩ [first, second] (fun _ => brief)
  have well : ∀ past c, past ++ [c] <+: [first, second] → c.result.isOk = true := by
    intro past c hp
    have mem : c ∈ [first, second] := hp.subset (by simp)
    simp only [List.mem_cons, List.not_mem_nil, or_false] at mem
    rcases mem with rfl | rfl <;> rfl
  have fate := fates.mpr fun past c hp overrun => by
    have failed := overrun.2.2.1
    rw [well past c hp] at failed
    cases failed
  refine ⟨small, brief, chain, hchain, ?_, ?_⟩
  · have unlimited : ¬ (fresh chain ⟨0, 0⟩ : Desk Nat).Limited config :=
      fun limited => Nat.not_succ_le_zero _ limited.2
    have open_ : ¬ (fresh chain ⟨0, 0⟩ : Desk Nat).Shut config first := by
      rintro ⟨u, hu, -⟩
      cases hu
    exact ((fate [] first (List.prefix_append _ _)).served unlimited open_).1
  · have limited : ((fresh chain ⟨0, 0⟩).run [first]).Limited config :=
      ⟨by decide, Nat.le_refl 1⟩
    obtain ⟨wait, result, -⟩ := (fate [first] second (List.prefix_refl _)).limited limited
    exact ⟨wait, result⟩

/-- A breaker that opens at the first failure, for as many seconds as 64 bits hold. -/
def forever : EndpointConfig := { maxFailures := 1, openSeconds := UInt64.size - 1 }

def down : Call Nat := ⟨0, 0, 0, [], .error (.badGateway "down")⟩

/-- The failure of the inner endpoint is no result of the call. -/
theorem a_failure_has_no_fate_when_the_circuit_cannot_open :
    ∃ chain, Chain.standard "sum" 100 1 (UInt64.size - 1) = .ok chain ∧
      ((fresh chain ⟨0, 0⟩).outcome down).result = .error .clockRange ∧
      ¬ ∀ past c, past ++ [c] <+: [down] →
        ((fresh chain ⟨0, 0⟩).run past).HasFate forever "sum" c := by
  have good : (fresh _ ⟨0, 0⟩ : Desk Nat).Good forever "sum" := good_fresh forever "sum" ⟨0, 0⟩
  have brief : Brief forever [down.nanos] := by
    intro _
    constructor <;> decide
  have hover : (fresh (forever.layers "sum" [] (afterAll "sum" forever.settings [])) ⟨0, 0⟩ :
      Desk Nat).Overrun forever down := by
    refine ⟨fun limited => Nat.not_succ_le_zero _ limited.2, ?_, rfl, by decide, by decide⟩
    rintro ⟨u, hu, -⟩
    cases hu
  have small : forever.rate < UInt32.size := by decide
  refine ⟨_, EndpointConfig.standard_eq small "sum", outcome_overrun good brief hover, ?_⟩
  intro fates
  exact (hasFate_iff good brief).mp (fates [] down (List.prefix_refl _)) hover

end Desk

end ServiceMesh
