-- Calls one after another through the layers of an operation. The limiter refuses a call, or
-- the breaker does, or the inner endpoint is asked once; and the calls before it say which.
import ServiceMesh.Endpoint.Config
import ServiceMesh.Proofs.Endpoint.Quotas
import ServiceMesh.Proofs.Endpoint.Spending
import ServiceMesh.Proofs.Endpoint.Visits

namespace ServiceMesh

/-! ## What is noted of a call -/

namespace Note

/-- Whether a note tells how a call ended, in the log or in the metrics. -/
def ofCall : Note → Bool
  | .event e => e.message = "endpoint call completed" || e.message = "endpoint call failed"
  | .count s _ => s.name = "request_duration_seconds_count"
  | .mark _ => false

/-- The observation of a call in the metrics. -/
def observed (method : String) (success : Bool) : Note :=
  .counted "request_duration_seconds_count"
    [("method", method), ("success", if success then "true" else "false")]

/-- The event of a call in the log. -/
def logged : Except Failure Unit → Note
  | .ok _ => .log .debug "endpoint call completed"
  | .error f => .log .warn "endpoint call failed" [("error", .text f.display)]

theorem ofCall_observed (method : String) (success : Bool) :
    (observed method success).ofCall = true := rfl

theorem ofCall_logged (r : Except Failure Unit) : (logged r).ofCall = true := by
  cases r <;> simp [logged, log, ofCall]

end Note

/-- What a breaker notes is about its circuit alone. -/
theorem Breaker.enter_notes (b : Breaker) (now : Instant) :
    (b.enter now).2.1.filter Note.ofCall = [] := by
  obtain ⟨name, settings, circuit⟩ := b
  cases circuit with
  | closed failures => rfl
  | opened until_ =>
    unfold enter
    simp only
    split
    · simp [Note.log, Note.ofCall]
    · rfl
  | halfOpen trial => cases trial <;> rfl

theorem Breaker.record_notes (b : Breaker) (now : Instant) (success : Bool) :
    (b.record now success).2.filter Note.ofCall = [] := by
  obtain ⟨name, settings, circuit⟩ := b
  cases circuit with
  | closed failures =>
    cases success with
    | true => rfl
    | false =>
      unfold record
      simp only
      split
      · simp [Note.log, Note.ofCall]
      · rfl
  | opened until_ => cases success <;> rfl
  | halfOpen trial => cases success <;> simp [record, Note.log, Note.ofCall]

theorem Breaker.recorded_notes (b : Breaker) (now : Instant) (success : Bool) :
    (recorded b now success).notes.filter Note.ofCall = [] := by
  have noted := b.record_notes now success
  unfold recorded
  rcases hrecord : b.record now success with ⟨c | kept, notes⟩
  all_goals
    rw [hrecord] at noted
    exact noted

namespace EndpointConfig

/-! ## The layers of an operation -/

def settings (config : EndpointConfig) : Breaker.Settings :=
  ⟨max config.maxFailures 1, config.openSeconds * 1000⟩

/-- The quota of the limiter, unless the rate is 0. -/
def quota (config : EndpointConfig) : Quota :=
  ⟨config.rate, Quota.periodMillis config.rate 1 * 1000000⟩

/-- The layers behind the limiter. -/
def inside (method : String) (b : Breaker) : Chain :=
  [.breaker b, .logging method, .instrumenting method]

/-- The layers, once calls have asked the limiter at some instants. -/
def layers (config : EndpointConfig) (method : String) (asked : List Nat) (b : Breaker) : Chain :=
  if config.rate = 0 then inside method b
  else .limiter (Limiter.spentBy config.quota asked) :: inside method b

theorem standard_eq {config : EndpointConfig} (hr : config.rate < UInt32.size) (method : String) :
    Chain.standard method config.rate config.maxFailures config.openSeconds =
      .ok (config.layers method [] (Breaker.afterAll method config.settings [])) := by
  unfold Chain.standard layers
  by_cases h : config.rate = 0
  · rw [if_pos h, if_pos h]
    rfl
  · obtain ⟨quota, hq⟩ := Quota.exists_perSecond hr
    have most : max 1 config.rate = config.rate := by omega
    have same := Quota.eq_of_perWindow hq
    rw [most] at same
    rw [if_neg h, if_neg h, hq, same]
    rfl

variable {config : EndpointConfig} {method : String} {asked : List Nat} {b b' : Breaker}
  {now : Moment} {notes : List Note}

theorem breakers_layers : (config.layers method asked b).breakers = [b] := by
  unfold layers
  split <;> rfl

theorem enter_inside {r : Except Failure Unit} (h : b.enter now.millis = (b', notes, r)) :
    Chain.enter now (inside method b) = (⟨inside method b', notes, none⟩, r) := by
  unfold inside Chain.enter Layer.enter
  simp only [h]
  cases r with
  | error f => rfl
  | ok _ => simp [Chain.enter, Layer.enter]

/-- The limiter refuses a call, and the layers stay as they are. -/
theorem enter_limited (now : Moment) (method : String) (b : Breaker) {wait : Nat}
    (h : config.rate ≠ 0)
    (hcheck : (Limiter.spentBy config.quota asked).check now.nanos = .error wait) :
    Chain.enter now (config.layers method asked b) =
      (⟨config.layers method asked b, [], none⟩,
        .error (.tooManyRequests "Rate limit exceeded" (some (Limiter.waitSeconds wait)))) := by
  unfold layers
  rw [if_neg h, Chain.enter, Layer.enter]
  simp only [hcheck]

/-- A call that the limiter lets through, if there is one, is the breaker's. -/
theorem enter_layers (now : Moment) (method : String) {r : Except Failure Unit}
    (hcheck : config.rate ≠ 0 → (Limiter.spentBy config.quota asked).check now.nanos =
      .ok (Limiter.spentBy config.quota (asked ++ [now.nanos])))
    (h : b.enter now.millis = (b', notes, r)) :
    Chain.enter now (config.layers method asked b) =
      (⟨config.layers method (asked ++ [now.nanos]) b', notes, none⟩, r) := by
  have entered : Chain.enter now (inside method b) = _ := enter_inside h
  unfold layers
  by_cases hr : config.rate = 0
  · rw [if_pos hr, if_pos hr, entered]
  · rw [if_neg hr, if_neg hr, Chain.enter, Layer.enter]
    simp only [hcheck hr, entered]
    cases r with
    | error f => simp [Chain.leaveOne, Layer.leave]
    | ok _ => simp

/-- A limiter takes no notice of how a call ends. -/
theorem leaveOne_limiter (l : Limiter) (r : Except Failure Unit) (p : Chain.Passage) :
    Chain.leaveOne now r (.limiter l) p = p.cons (.limiter l) := by
  obtain ⟨chain, notes, crash⟩ := p
  cases crash <;> simp [Chain.leaveOne, Layer.leave, Layer.abandon, Chain.Passage.cons]

theorem leave_inside {r : Except Failure Unit} {crash : Option Crash}
    (h : Breaker.recorded b now.millis r.isOk = ⟨[.breaker b'], notes, crash⟩) :
    Chain.leave now r (inside method b) =
      ⟨inside method b', [Note.observed method r.isOk, Note.logged r] ++ notes, crash⟩ := by
  unfold Breaker.recorded at h
  rcases hrecord : b.record now.millis r.isOk with ⟨c | kept, more⟩
  all_goals
    rw [hrecord] at h
    cases h
    unfold inside
    simp only [Chain.leave, Chain.leaveOne, Layer.leave, Option.isNone_none, if_true, hrecord]
    cases r <;> rfl

/-- A result comes out: it is observed and logged, and the breaker records it or breaks off. -/
theorem leave_layers (now : Moment) (config : EndpointConfig) (method : String)
    (asked : List Nat) {r : Except Failure Unit} {crash : Option Crash}
    (h : Breaker.recorded b now.millis r.isOk = ⟨[.breaker b'], notes, crash⟩) :
    Chain.leave now r (config.layers method asked b) =
      ⟨config.layers method asked b',
        [Note.observed method r.isOk, Note.logged r] ++ notes, crash⟩ := by
  have left : Chain.leave now r (inside method b) = _ := leave_inside h
  unfold layers
  by_cases hr : config.rate = 0
  · rw [if_pos hr, if_pos hr, left]
  · rw [if_neg hr, if_neg hr, Chain.leave, left, leaveOne_limiter]
    rfl

end EndpointConfig

/-! ## Calls -/

/-- A call, the time before it, and what the inner endpoint makes of it if it is asked. -/
structure Call (α : Type) where
  /-- The time that passes before the call, in milliseconds. -/
  pause : Nat
  /-- When it asks, on the clock of limiters. -/
  nanos : Nat
  /-- The time that it spends in the inner endpoint, in milliseconds. -/
  took : Nat
  /-- What the inner endpoint notes. -/
  notes : List Note
  result : Except Failure α

namespace Call

variable {α : Type}

/-- The inner endpoint at work. -/
def inner (c : Call α) : Act (Session α) (Except Failure α) := do
  Session.advance c.took
  Act.note c.notes
  return c.result

/-- When a call asks that comes after some time. -/
def asks (c : Call α) (now : Moment) : Moment := ⟨now.millis + c.pause, c.nanos⟩

/-- The call and the time before it. -/
def act (c : Call α) : Act (Session α) (Except Failure α) := do
  Act.modify fun s => { s with guard := ⟨s.guard.chain, c.asks s.guard.now⟩ }
  Session.call c.inner

open Breaker.Visit (outside)

variable {chain chain' : Chain} {now : Moment} {notes : List Note}

theorem run_act (c : Call α) (chain : Chain) (now : Moment) (reached : Nat) :
    c.act.run (outside chain now reached) =
      (Session.call c.inner).run (outside chain (c.asks now) reached) :=
  Act.run_bind_ok (Act.run_modify _ _)

theorem run_refused (c : Call α) {f : Failure} (reached : Nat)
    (h : Chain.enter (c.asks now) chain = (⟨chain', notes, none⟩, .error f)) :
    c.act.run (outside chain now reached) =
      ⟨.ok (.error f), outside chain' ⟨now.millis + c.pause, c.nanos + 1⟩ reached, notes⟩ := by
  let s : Session α := outside chain (c.asks now) reached
  have entered := Session.run_enter (s := s) h
  rw [run_act]
  exact Act.run_guarded_refused entered

/-- A call that is let in is asked of the inner endpoint once, and comes out if no layer breaks
off. -/
theorem run_served (c : Call α) {p : Chain.Passage} (reached : Nat)
    (henter : Chain.enter (c.asks now) chain = (⟨chain', notes, none⟩, .ok ()))
    (hleave : Chain.leave ⟨now.millis + c.pause + c.took, c.nanos + 1⟩
      (c.result.map fun _ => ()) chain' = p) :
    c.act.run (outside chain now reached) =
      ⟨Guard.passed p c.result,
        outside p.chain ⟨now.millis + c.pause + c.took, c.nanos + 2⟩ (reached + 1),
        notes ++ (c.notes ++ p.notes)⟩ := by
  let s : Session α := outside chain (c.asks now) reached
  let s' : Session α :=
    outside chain' ⟨now.millis + c.pause + c.took, c.nanos + 1⟩ (reached + 1)
  have entered := Session.run_enter (s := s) henter
  have worked : (do Act.modify fun s => { s with reached := s.reached + 1 }
                    c.inner : Act (Session α) (Except Failure α)).run
      (outside chain' ⟨now.millis + c.pause, c.nanos + 1⟩ reached) =
        ⟨.ok c.result, s', c.notes⟩ := by
    unfold inner
    rw [Act.run_bind_ok (Act.run_modify _ _), Act.run_bind_ok (Session.run_advance _ _),
      Act.run_bind_ok (Act.run_note _ _), Act.run_pure]
    simp [s', outside]
  have left : (Session.atGuard (Guard.leave (c.result.map fun _ => ()))).run s' =
      ⟨Guard.passed p (), { s' with guard := s'.guard.after p }, p.notes⟩ :=
    Act.run_on (Guard.run_leave hleave)
  have called := Act.run_guarded entered worked left
  rw [Guard.map_passed] at called
  rw [run_act]
  exact called

end Call

end ServiceMesh
