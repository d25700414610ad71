-- Calls through a breaker one after the other: which of them are refused can be told
-- from how the admitted ones ended, and when.
import ServiceMesh.Proofs.Endpoint.Sessions

namespace ServiceMesh.Breaker

/-! ## How the admitted calls ended -/

/-- An admitted call that has ended. -/
structure Admitted where
  ended : Instant
  success : Bool
  deriving DecidableEq, Repr

/-- The failures in a row up to the latest call. The latest call stands first. -/
def streak (past : List Admitted) : Nat := (past.takeWhile fun c => !c.success).length

/-- Whether the latest call opened the circuit: it failed, and it was the first to be admitted
after an opening, or the one that made the streak full. -/
def opens (full : Nat) : List Admitted → Bool
  | [] => false
  | c :: earlier => !c.success && (opens full earlier || streak (c :: earlier) == full)

namespace Settings

/-- The failures in a row that open the circuit; one at least. -/
def full (settings : Settings) : Nat := max 1 settings.maxFailures

/-- Until when the latest call keeps others out, if it opened the circuit. -/
def shutUntil? (settings : Settings) (past : List Admitted) : Option Instant :=
  if opens settings.full past then past.head?.map fun c => c.ended + settings.openFor else none

/-- Whether a call that asks at `now` is refused, after the admitted ones. -/
def Refuses (settings : Settings) (past : List Admitted) (now : Instant) : Prop :=
  ∃ u, settings.shutUntil? past = some u ∧ now < u

/-- Whether a failure at `now` opens the circuit for longer than the clock reaches. -/
def Overruns (settings : Settings) (past : List Admitted) (now : Instant) : Prop :=
  opens settings.full (⟨now, false⟩ :: past) = true ∧ Instant.limit ≤ now + settings.openFor

/-- The circuit after the admitted calls. -/
def circuitAfter (settings : Settings) (past : List Admitted) : Circuit :=
  match settings.shutUntil? past with
  | some u => .opened u
  | none => .closed (streak past)

/-- The circuit while a call is inside, after the ones admitted before. -/
def circuitDuring (settings : Settings) (past : List Admitted) : Circuit :=
  match settings.shutUntil? past with
  | some _ => .halfOpen true
  | none => .closed (streak past)

/-- While the circuit is closed, the streak is not full. -/
def Counts (settings : Settings) (past : List Admitted) : Prop :=
  settings.shutUntil? past = none → streak past < settings.full

variable {settings : Settings} {past : List Admitted}

theorem shutUntil?_cons (c : Admitted) :
    settings.shutUntil? (c :: past) =
      if opens settings.full (c :: past) then some (c.ended + settings.openFor) else none := rfl

theorem opens_eq : opens settings.full past = (settings.shutUntil? past).isSome := by
  unfold shutUntil?
  cases past with
  | nil => rfl
  | cons c past => split <;> simp_all

theorem streak_success (now : Instant) : streak (⟨now, true⟩ :: past) = 0 := rfl

theorem streak_failure (now : Instant) : streak (⟨now, false⟩ :: past) = streak past + 1 := rfl

theorem opens_failure (now : Instant) :
    opens settings.full (⟨now, false⟩ :: past) = true ↔
      settings.shutUntil? past ≠ none ∨ streak past + 1 = settings.full := by
  unfold opens
  rw [opens_eq, streak_failure]
  simp [Option.isSome_iff_ne_none]

end Settings

/-- A breaker after the admitted calls. -/
def afterAll (name : String) (settings : Settings) (past : List Admitted) : Breaker :=
  ⟨name, settings, settings.circuitAfter past⟩

/-- A breaker while a call is inside. -/
def during (name : String) (settings : Settings) (past : List Admitted) : Breaker :=
  ⟨name, settings, settings.circuitDuring past⟩

section Laws

variable (name : String) {settings : Settings} {past : List Admitted} {now : Instant}

theorem enter_refused (h : settings.Refuses past now) :
    (afterAll name settings past).enter now =
      (afterAll name settings past, [], .error (afterAll name settings past).rejection) := by
  obtain ⟨u, hu, hlt⟩ := h
  simp [afterAll, enter, Settings.circuitAfter, hu, Nat.not_le.mpr hlt]

theorem enter_admitted (h : ¬ settings.Refuses past now) :
    ∃ notes, (afterAll name settings past).enter now =
      (during name settings past, notes, .ok ()) := by
  unfold afterAll during enter Settings.circuitAfter Settings.circuitDuring
  cases hu : settings.shutUntil? past with
  | none => exact ⟨_, rfl⟩
  | some u =>
    have hle : u ≤ now := by
      by_contra hlt
      exact h ⟨u, hu, Nat.lt_of_not_le hlt⟩
    simp only [if_pos hle]
    exact ⟨_, rfl⟩

theorem record_success :
    ∃ notes, (during name settings past).record now true =
      (.ok (afterAll name settings (⟨now, true⟩ :: past)), notes) := by
  have hafter : settings.circuitAfter (⟨now, true⟩ :: past) = .closed 0 := rfl
  unfold afterAll during record Settings.circuitDuring
  rw [hafter]
  cases settings.shutUntil? past with
  | none => exact ⟨_, rfl⟩
  | some u => exact ⟨_, rfl⟩

/-- A failure opens the circuit if it fills the streak or is that of a trial. -/
theorem record_failure (hc : settings.Counts past) :
    ∃ notes, (during name settings past).record now false =
      (if opens settings.full (⟨now, false⟩ :: past) then
        (during name settings past).openFrom now
      else .ok (afterAll name settings (⟨now, false⟩ :: past)), notes) := by
  cases hu : settings.shutUntil? past with
  | some u =>
    have hopens : opens settings.full (⟨now, false⟩ :: past) = true :=
      Settings.opens_failure now |>.mpr (Or.inl (by simp [hu]))
    rw [if_pos hopens]
    unfold during record Settings.circuitDuring
    rw [hu]
    exact ⟨_, rfl⟩
  | none =>
    have hlt := hc hu
    have hiff : opens settings.full (⟨now, false⟩ :: past) = true ↔
        settings.maxFailures ≤ streak past + 1 := by
      rw [Settings.opens_failure, hu]
      unfold Settings.full at hlt ⊢
      simp only [ne_eq, not_true_eq_false, false_or]
      omega
    by_cases hopens : opens settings.full (⟨now, false⟩ :: past) = true
    · rw [if_pos hopens]
      unfold during record Settings.circuitDuring
      rw [hu]
      simp only [if_pos (hiff.mp hopens)]
      exact ⟨_, rfl⟩
    · have hmax := fun h => hopens (hiff.mpr h)
      have hafter : settings.circuitAfter (⟨now, false⟩ :: past) = .closed (streak past + 1) := by
        unfold Settings.circuitAfter
        rw [Settings.shutUntil?_cons, if_neg hopens]
        rfl
      rw [if_neg hopens]
      unfold during record Settings.circuitDuring afterAll
      rw [hu, hafter]
      simp only [if_neg hmax]
      exact ⟨_, rfl⟩

theorem record_in_time (hc : settings.Counts past) {success : Bool}
    (h : success = true ∨ ¬ settings.Overruns past now) :
    ∃ notes, (during name settings past).record now success =
      (.ok (afterAll name settings (⟨now, success⟩ :: past)), notes) := by
  cases success with
  | true => exact record_success name
  | false =>
    have hreach : ¬ settings.Overruns past now := h.resolve_left (by simp)
    obtain ⟨notes, hrecord⟩ := @record_failure name settings past now hc
    rw [hrecord]
    by_cases hopens : opens settings.full (⟨now, false⟩ :: past) = true
    · have hr : now + settings.openFor < Instant.limit := by
        by_contra hlt
        exact hreach ⟨hopens, Nat.le_of_not_lt hlt⟩
      have hafter : settings.circuitAfter (⟨now, false⟩ :: past) =
          .opened (now + settings.openFor) := by
        unfold Settings.circuitAfter
        rw [Settings.shutUntil?_cons, if_pos hopens]
      refine ⟨notes, ?_⟩
      rw [if_pos hopens, openFrom_ok _ _ hr]
      unfold afterAll during
      rw [hafter]
    · exact ⟨notes, by rw [if_neg hopens]⟩

theorem record_overrun (hc : settings.Counts past) (h : settings.Overruns past now) :
    ∃ notes, (during name settings past).record now false = (.error .clockRange, notes) := by
  obtain ⟨notes, hrecord⟩ := @record_failure name settings past now hc
  refine ⟨notes, ?_⟩
  rw [hrecord, if_pos h.1, openFrom_error _ _ (Nat.not_lt.mpr h.2)]

theorem counts_cons (hc : settings.Counts past) (now : Instant) (success : Bool) :
    settings.Counts (⟨now, success⟩ :: past) := by
  intro hshut
  cases success with
  | true =>
    rw [Settings.streak_success]
    unfold Settings.full
    omega
  | false =>
    have hopens : ¬ opens settings.full (⟨now, false⟩ :: past) = true := by
      rw [Settings.opens_eq, hshut]
      simp
    rw [Settings.opens_failure, not_or, not_not] at hopens
    have hlt := hc hopens.1
    rw [Settings.streak_failure]
    omega

end Laws

/-! ## Visits -/

/-- How a call ends for its caller. -/
inductive Ending (α : Type) where
  | returned (result : Except Failure α)
  /-- Its caller gives it up. -/
  | abandoned (request : α)

def Ending.success {α : Type} : Ending α → Bool
  | .returned r => r.isOk
  | .abandoned _ => false

/-- A call, and the time before it. -/
structure Visit (α : Type) where
  /-- The time that passes before the call, in milliseconds. -/
  pause : Nat
  /-- The time that the call spends in the inner endpoint, if it gets there. -/
  took : Nat
  /-- How the call ends, if it gets there. -/
  ending : Ending α

variable {α : Type}

/-- A call that fails at once. -/
def Visit.failing (f : Failure) : Visit α := ⟨0, 0, .returned (.error f)⟩

/-- The call itself. -/
def Visit.call (v : Visit α) : Act (Session α) (Ending α) :=
  match v.ending with
  | .returned r => do
    let result ← Session.call (do Session.advance v.took; return r)
    return .returned result
  | .abandoned request => do
    match ← Session.start "call" request with
    | some f => return .returned (.error f)
    | none =>
      Session.advance v.took
      let _ ← Session.drop "call"
      return .abandoned request

/-- The call and the time before it. -/
def Visit.act (v : Visit α) : Act (Session α) (Ending α) := do
  Session.advance v.pause
  v.call

/-- An endpoint behind a breaker, and the calls that it has admitted. -/
structure Series (α : Type) where
  session : Session α
  /-- The admitted calls that have ended, the latest first. -/
  admitted : List Admitted := []

namespace Series

/-- A breaker that no call has asked yet. -/
def fresh (name : String) (settings : Settings) (now : Moment) : Series α :=
  { session := { guard := ⟨[.breaker ⟨name, settings, .closed 0⟩], now⟩ } }

def outcome (t : Series α) (v : Visit α) : Outcome (Session α) (Ending α) := v.act.run t.session

/-- A call that reaches the inner endpoint is admitted. -/
def visit (t : Series α) (v : Visit α) : Series α :=
  let after := (t.outcome v).state
  if t.session.reached < after.reached then
    ⟨after, ⟨after.guard.now.millis, v.ending.success⟩ :: t.admitted⟩
  else ⟨after, t.admitted⟩

/-- When a call asks. -/
def asks (t : Series α) (v : Visit α) : Instant := t.session.guard.now.millis + v.pause

/-- When it ends, if it is admitted. -/
def ends (t : Series α) (v : Visit α) : Instant := t.asks v + v.took

end Series

/-! ### A call goes in and comes out -/

/-- A breaker alone as a call comes out: it records how the call ended, or breaks off over it. -/
def recorded (b : Breaker) (now : Instant) (success : Bool) : Chain.Passage :=
  match b.record now success with
  | (.ok b, notes) => ⟨[.breaker b], notes, none⟩
  | (.error c, notes) => ⟨[.breaker b], notes, some c⟩

theorem chain_enter {b b' : Breaker} {now : Moment} {notes : List Note}
    {r : Except Failure Unit} (h : b.enter now.millis = (b', notes, r)) :
    ∃ notes, Chain.enter now [.breaker b] = (⟨[.breaker b'], notes, none⟩, r) := by
  unfold Chain.enter Layer.enter
  simp only [h]
  cases r with
  | error f => exact ⟨_, rfl⟩
  | ok _ => exact ⟨_, rfl⟩

theorem chain_leave (b : Breaker) (now : Moment) (r : Except Failure Unit) :
    Chain.leave now r [.breaker b] = recorded b now.millis r.isOk := by
  simp only [Chain.leave, Chain.leaveOne, Option.isNone_none, if_true, Layer.leave, recorded]
  obtain ⟨r, notes⟩ := b.record now.millis r.isOk
  cases r <;> rfl

theorem chain_abandon (b : Breaker) (now : Moment) :
    Chain.abandon now [.breaker b] = recorded b now.millis false := by
  simp only [Chain.abandon, Layer.abandon, recorded]
  obtain ⟨r, notes⟩ := b.record now.millis false
  cases r <;> rfl

namespace Visit

/-- An endpoint behind a chain, with nobody inside. -/
def outside (chain : Chain) (now : Moment) (reached : Nat) : Session α :=
  { guard := ⟨chain, now⟩, reached }

variable {b b' : Breaker} {now : Moment} {reached : Nat} {notes : List Note}

/-- A call asks a breaker, which lets it in or refuses it. -/
theorem run_enter {r : Except Failure Unit} (h : b.enter now.millis = (b', notes, r)) :
    ∃ notes, (Session.atGuard Guard.enter).run (outside [.breaker b] now reached : Session α) =
      ⟨.ok r, outside [.breaker b'] ⟨now.millis, now.nanos + 1⟩ reached, notes⟩ := by
  obtain ⟨notes, henter⟩ := chain_enter h
  let s : Session α := outside [.breaker b] now reached
  have entered := Session.run_enter (s := s) henter
  exact ⟨_, entered⟩

/-- A call that is let in stays inside. -/
theorem run_start (h : b.enter now.millis = (b', notes, .ok ())) (reached : Nat) (request : α) :
    ∃ notes, (Session.start "call" request).run (outside [.breaker b] now reached) =
      ⟨.ok none, ⟨⟨[.breaker b'], ⟨now.millis, now.nanos + 1⟩⟩, [("call", request)],
        reached + 1⟩, notes⟩ := by
  obtain ⟨notes, henter⟩ := chain_enter h
  let s : Session α := outside [.breaker b] now reached
  have started := Session.run_start_admitted (s := s) henter "call" request
  exact started

/-- A call comes out through a breaker, which records how it ended. -/
theorem run_leave (b : Breaker) (now : Moment) (reached : Nat) (r : Except Failure α) :
    (Session.atGuard (Guard.leave (r.map fun _ => ()))).run
        (outside [.breaker b] now reached : Session α) =
      ⟨Guard.passed (recorded b now.millis r.isOk) (),
        outside (recorded b now.millis r.isOk).chain ⟨now.millis, now.nanos + 1⟩ reached,
        (recorded b now.millis r.isOk).notes⟩ := by
  have hleave := chain_leave b now (r.map fun _ => ())
  have hok : (r.map fun _ => ()).isOk = r.isOk := by
    cases r <;> rfl
  rw [hok] at hleave
  refine Act.run_on ?_
  exact Guard.run_leave hleave

/-- A call that is inside is given up. -/
theorem run_drop (b : Breaker) (now : Moment) (reached : Nat) (request : α) :
    ∃ notes, (Session.drop "call").run ⟨⟨[.breaker b], now⟩, [("call", request)], reached⟩ =
      ⟨Guard.passed (recorded b now.millis false) true,
        outside (recorded b now.millis false).chain ⟨now.millis, now.nanos + 1⟩ reached,
        notes⟩ := by
  let inside : Session α := ⟨⟨[.breaker b], now⟩, [("call", request)], reached⟩
  have found : inside.find? "call" = some request := rfl
  exact ⟨_, Session.run_drop found (chain_abandon b now)⟩

/-- A visit that the breaker refuses. -/
theorem run_refused (v : Visit α) (now : Moment) (reached : Nat) {f : Failure}
    (h : b.enter now.millis = (b', notes, .error f)) :
    ∃ notes, v.call.run (outside [.breaker b] now reached) =
      ⟨.ok (.returned (.error f)), outside [.breaker b'] ⟨now.millis, now.nanos + 1⟩ reached,
        notes⟩ := by
  obtain ⟨inward, hin⟩ := @run_enter α _ _ _ reached _ _ h
  unfold call
  cases v.ending with
  | returned r =>
    have hcall : (Session.call (do Session.advance v.took; return r)).run
        (outside [.breaker b] now reached) =
          ⟨.ok (.error f), outside [.breaker b'] ⟨now.millis, now.nanos + 1⟩ reached, inward⟩ :=
      Act.run_guarded_refused hin
    exact ⟨_, Act.run_bind_ok hcall⟩
  | abandoned request =>
    have hstart : (Session.start "call" request).run (outside [.breaker b] now reached) =
        ⟨.ok (some f), _, _⟩ := Act.run_bind_ok hin
    exact ⟨_, Act.run_bind_ok hstart⟩

/-- A visit that the breaker admits. -/
theorem run_admitted (v : Visit α) (now : Moment) (reached : Nat)
    (h : b.enter now.millis = (b', notes, .ok ())) :
    ∃ notes, v.call.run (outside [.breaker b] now reached) =
      ⟨Guard.passed (recorded b' (now.millis + v.took) v.ending.success) v.ending,
        outside (recorded b' (now.millis + v.took) v.ending.success).chain
          ⟨now.millis + v.took, now.nanos + 2⟩ (reached + 1), notes⟩ := by
  obtain ⟨inward, hin⟩ := @run_enter α _ _ _ reached _ _ h
  unfold call
  cases v.ending with
  | returned r =>
    have hwork : (do Act.modify fun s => { s with reached := s.reached + 1 }
                     Session.advance v.took
                     return r : Act (Session α) (Except Failure α)).run
        (outside [.breaker b'] ⟨now.millis, now.nanos + 1⟩ reached) =
        ⟨.ok r, outside [.breaker b'] ⟨now.millis + v.took, now.nanos + 1⟩ (reached + 1), []⟩ := rfl
    have hcall := Act.run_guarded hin hwork (run_leave b' _ _ r)
    rw [Guard.map_passed] at hcall
    exact ⟨_, Guard.run_passed hcall Ending.returned⟩
  | abandoned request =>
    obtain ⟨started, hstart⟩ := run_start h reached request
    let inside : Session α :=
      ⟨⟨[.breaker b'], ⟨now.millis, now.nanos + 1⟩⟩, [("call", request)], reached + 1⟩
    have hwait := Session.run_advance inside v.took
    obtain ⟨dropped, hdrop⟩ :=
      run_drop b' ⟨now.millis + v.took, now.nanos + 1⟩ (reached + 1) request
    have hgiven := Guard.run_passed hdrop fun _ => Ending.abandoned request
    simp only
    rw [Act.run_bind_ok hstart]
    simp only
    rw [Act.run_bind_ok hwait, hgiven]
    exact ⟨_, rfl⟩

end Visit

section Recorded

variable (name : String) {settings : Settings} {past : List Admitted} {now : Instant}

theorem recorded_in_time (hc : settings.Counts past) {success : Bool}
    (h : success = true ∨ ¬ settings.Overruns past now) :
    ∃ notes, recorded (during name settings past) now success =
      ⟨[.breaker (afterAll name settings (⟨now, success⟩ :: past))], notes, none⟩ := by
  obtain ⟨notes, hrecord⟩ := @record_in_time name settings past now hc success h
  unfold recorded
  rw [hrecord]
  exact ⟨notes, rfl⟩

theorem recorded_overrun (hc : settings.Counts past) (h : settings.Overruns past now) :
    ∃ notes, recorded (during name settings past) now false =
      ⟨[.breaker (during name settings past)], notes, some .clockRange⟩ := by
  obtain ⟨notes, hrecord⟩ := @record_overrun name settings past now hc h
  unfold recorded
  rw [hrecord]
  exact ⟨notes, rfl⟩

end Recorded

namespace Series

/-- The calls so far decide about the next one: it is refused while the last admitted one keeps
others out, and else it reaches the inner endpoint and ends as it ends there. -/
structure Lawful (name : String) (settings : Settings) (t : Series α) (v : Visit α) : Prop where
  refused : settings.Refuses t.admitted (t.asks v) →
    (t.outcome v).result = .ok (.returned (.error
      (.unavailable ("circuit breaker \x27" ++ name ++ "\x27 is open")))) ∧
    (t.outcome v).state.reached = t.session.reached
  admitted : ¬ settings.Refuses t.admitted (t.asks v) →
    (t.outcome v).result = .ok v.ending ∧
    (t.outcome v).state.reached = t.session.reached + 1

/-- A call is admitted and opens the circuit for longer than the clock reaches. -/
def Overrun (settings : Settings) (t : Series α) (v : Visit α) : Prop :=
  ¬ settings.Refuses t.admitted (t.asks v) ∧ v.ending.success = false ∧
    settings.Overruns t.admitted (t.ends v)

/-- The breaker is as the admitted calls make it, and nobody is inside. -/
structure Good (name : String) (settings : Settings) (t : Series α) : Prop where
  standing : t.session = Visit.outside [.breaker (afterAll name settings t.admitted)]
    t.session.guard.now t.session.reached
  counts : settings.Counts t.admitted

variable {name : String} {settings : Settings} {t : Series α} {v : Visit α}

theorem outcome_eq {chain : Chain} (h : t.session =
      Visit.outside chain t.session.guard.now t.session.reached) :
    t.outcome v = (v.call.run (Visit.outside chain
      { t.session.guard.now with millis := t.asks v } t.session.reached)) := by
  unfold outcome Visit.act
  rw [h]
  exact Act.run_bind_ok (Session.run_advance _ _)

theorem outcome_refused (g : Good name settings t) (h : settings.Refuses t.admitted (t.asks v)) :
    ∃ now notes, t.outcome v = ⟨.ok (.returned (.error
        (.unavailable ("circuit breaker \x27" ++ name ++ "\x27 is open")))),
      Visit.outside [.breaker (afterAll name settings t.admitted)] now t.session.reached,
      notes⟩ := by
  obtain ⟨notes, hrun⟩ := Visit.run_refused v
    { t.session.guard.now with millis := t.asks v } t.session.reached (enter_refused name h)
  exact ⟨_, notes, by rw [outcome_eq g.standing]; exact hrun⟩

theorem outcome_admitted (g : Good name settings t)
    (h : ¬ settings.Refuses t.admitted (t.asks v)) {p : Chain.Passage}
    (hp : recorded (during name settings t.admitted) (t.ends v) v.ending.success = p) :
    ∃ now notes, t.outcome v = ⟨Guard.passed p v.ending,
        Visit.outside p.chain now (t.session.reached + 1), notes⟩ ∧ now.millis = t.ends v := by
  subst hp
  obtain ⟨entered, henter⟩ := enter_admitted name h
  obtain ⟨notes, hrun⟩ := Visit.run_admitted v
    { t.session.guard.now with millis := t.asks v } t.session.reached henter
  exact ⟨_, notes, by rw [outcome_eq g.standing]; exact hrun, rfl⟩

/-- A call that is admitted and does not overrun ends as it ends inside, and is the latest. -/
theorem outcome_in_time (g : Good name settings t) (h : ¬ settings.Refuses t.admitted (t.asks v))
    (hover : ¬ t.Overrun settings v) :
    ∃ now notes, t.outcome v = ⟨.ok v.ending, Visit.outside
        [.breaker (afterAll name settings (⟨t.ends v, v.ending.success⟩ :: t.admitted))]
        now (t.session.reached + 1), notes⟩ ∧ now.millis = t.ends v := by
  have hin : v.ending.success = true ∨ ¬ settings.Overruns t.admitted (t.ends v) := by
    by_contra hnot
    rw [not_or, not_not, Bool.not_eq_true] at hnot
    exact hover ⟨h, hnot.1, hnot.2⟩
  obtain ⟨notes, hrecorded⟩ := recorded_in_time name g.counts hin
  exact outcome_admitted g h hrecorded

theorem visit_in_time (g : Good name settings t) (h : ¬ settings.Refuses t.admitted (t.asks v))
    (hover : ¬ t.Overrun settings v) :
    (t.visit v).admitted = ⟨t.ends v, v.ending.success⟩ :: t.admitted ∧
      (t.visit v).session.guard.now.millis = t.ends v := by
  obtain ⟨now, notes, houtcome, hnow⟩ := outcome_in_time g h hover
  unfold visit
  rw [houtcome]
  simp only [Visit.outside, Nat.lt_succ_self, if_true]
  exact ⟨by rw [hnow], hnow⟩

/-- A call that overruns breaks off. -/
theorem outcome_overrun (g : Good name settings t) (hover : t.Overrun settings v) :
    (t.outcome v).result = .error .clockRange := by
  obtain ⟨h, hfailed, hreach⟩ := hover
  obtain ⟨notes, hrecorded⟩ := recorded_overrun name g.counts hreach
  rw [← hfailed] at hrecorded
  obtain ⟨now, notes, houtcome, -⟩ := outcome_admitted g h hrecorded
  rw [houtcome]
  rfl

theorem lawful_iff (g : Good name settings t) :
    t.Lawful name settings v ↔ ¬ t.Overrun settings v := by
  constructor
  · intro lawful hover
    have broken := outcome_overrun g hover
    rw [(lawful.admitted hover.1).1] at broken
    cases broken
  · intro hover
    constructor
    · intro h
      obtain ⟨now, notes, houtcome⟩ := outcome_refused g h
      rw [houtcome]
      exact ⟨rfl, rfl⟩
    · intro h
      obtain ⟨now, notes, houtcome, -⟩ := outcome_in_time g h hover
      rw [houtcome]
      exact ⟨rfl, rfl⟩

theorem good_fresh (name : String) (settings : Settings) (now : Moment) :
    (fresh name settings now : Series α).Good name settings where
  standing := rfl
  counts := by
    intro _
    exact Nat.lt_of_lt_of_le Nat.zero_lt_one (Nat.le_max_left 1 _)

theorem good_visit (g : Good name settings t) (hover : ¬ t.Overrun settings v) :
    (t.visit v).Good name settings := by
  unfold visit
  by_cases h : settings.Refuses t.admitted (t.asks v)
  · obtain ⟨now, notes, houtcome⟩ := outcome_refused g h
    rw [houtcome]
    simp only [Visit.outside, Nat.lt_irrefl, if_false]
    exact ⟨rfl, g.counts⟩
  · obtain ⟨now, notes, houtcome, hnow⟩ := outcome_in_time g h hover
    rw [houtcome]
    simp only [Visit.outside, Nat.lt_succ_self, if_true]
    rw [hnow]
    exact ⟨rfl, counts_cons g.counts _ _⟩

/-! ### Runs -/

def run (t : Series α) (visits : List (Visit α)) : Series α := visits.foldl visit t

theorem run_snoc (t : Series α) (past : List (Visit α)) (v : Visit α) :
    t.run (past ++ [v]) = (t.run past).visit v := List.foldl_append

theorem good_run (g : Good name settings t) (visits : List (Visit α))
    (h : ∀ past v, past ++ [v] <+: visits → (t.run past).Good name settings →
      ¬ (t.run past).Overrun settings v) : (t.run visits).Good name settings := by
  induction visits using List.reverseRecOn with
  | nil => exact g
  | append_singleton past v ih =>
    have good : (t.run past).Good name settings := by
      refine ih ?_
      intro past' v' hp
      exact h past' v' (hp.trans (List.prefix_append _ _))
    rw [run_snoc]
    exact good_visit good (h past v (List.prefix_refl _) good)

/-- Calls one after the other are refused and admitted as the admitted ones before them say,
exactly if none of them opens the circuit for longer than the clock reaches. -/
theorem lawful_exactly_if_no_call_overruns (name : String) (settings : Settings) (now : Moment)
    (visits : List (Visit α)) :
    (∀ past v, past ++ [v] <+: visits →
        ((fresh name settings now).run past).Lawful name settings v) ↔
      ∀ past v, past ++ [v] <+: visits →
        ¬ ((fresh name settings now).run past).Overrun settings v := by
  have before : ∀ {past : List (Visit α)} {v : Visit α}, past ++ [v] <+: visits →
      past <+: visits := fun hp => (List.prefix_append _ _).trans hp
  constructor
  · intro lawful past v hp
    have good : ((fresh name settings now).run past).Good name settings := by
      refine good_run (good_fresh name settings now) past ?_
      intro past' v' hp' good
      exact (lawful_iff good).mp (lawful past' v' (hp'.trans (before hp)))
    exact (lawful_iff good).mp (lawful past v hp)
  · intro h past v hp
    have good : ((fresh name settings now).run past).Good name settings := by
      refine good_run (good_fresh name settings now) past ?_
      intro past' v' hp' _
      exact h past' v' (hp'.trans (before hp))
    exact (lawful_iff good).mpr (h past v hp)

/-! ### Failures in a row -/

theorem streak_replicate (k : Nat) (now : Instant) :
    streak (List.replicate k ⟨now, false⟩) = k := by
  induction k with
  | zero => rfl
  | succ k ih => rw [List.replicate_succ, Settings.streak_failure, ih]

theorem opens_replicate {k : Nat} (h : k < settings.full) (now : Instant) :
    opens settings.full (List.replicate k ⟨now, false⟩) = false := by
  induction k with
  | zero => rfl
  | succ k ih =>
    have hstreak := streak_replicate (k + 1) now
    rw [List.replicate_succ] at hstreak ⊢
    unfold opens
    rw [ih (Nat.lt_of_succ_lt h), hstreak]
    simp [Nat.ne_of_lt h]

theorem refuses_nothing (h : opens settings.full t.admitted = false) (now : Instant) :
    ¬ settings.Refuses t.admitted now := by
  rintro ⟨u, hu, -⟩
  rw [Settings.opens_eq, hu] at h
  cases h

/-- As long as they are too few to open the circuit, failures in a row are all admitted. -/
theorem run_failing (name : String) (settings : Settings) (now : Moment) (f : Failure) {k : Nat}
    (hk : k < settings.full) :
    ((fresh name settings now : Series α).run (List.replicate k (.failing f))).Good name settings ∧
      ((fresh name settings now : Series α).run (List.replicate k (.failing f))).admitted =
        List.replicate k ⟨now.millis, false⟩ ∧
      ((fresh name settings now : Series α).run
        (List.replicate k (.failing f))).session.guard.now.millis = now.millis := by
  induction k with
  | zero => exact ⟨good_fresh name settings now, rfl, rfl⟩
  | succ k ih =>
    obtain ⟨good, hadmitted, hnow⟩ := ih (Nat.lt_of_succ_lt hk)
    rw [List.replicate_succ', run_snoc]
    generalize (fresh name settings now).run (List.replicate k (Visit.failing f)) = t at *
    have hends : t.ends (.failing f) = now.millis := hnow
    have hshut := opens_replicate (Nat.lt_of_succ_lt hk) now.millis
    rw [← hadmitted] at hshut
    have hover : ¬ t.Overrun settings (.failing f) := by
      rintro ⟨-, -, hopens, -⟩
      rw [hends, hadmitted, ← List.replicate_succ, opens_replicate hk] at hopens
      cases hopens
    obtain ⟨hnew, hmillis⟩ := visit_in_time good (refuses_nothing hshut _) hover
    refine ⟨good_visit good hover, ?_, hmillis.trans hends⟩
    rw [hnew, hends, hadmitted, List.replicate_succ]
    rfl

/-- Where the clock does not reach to the end of a period, the failure that would open the
circuit breaks off. -/
theorem the_last_failure_is_lost (name : String) (settings : Settings) (now : Moment) (f : Failure)
    (h : Instant.limit ≤ now.millis + settings.openFor) :
    (((fresh name settings now : Series α).run
      (List.replicate (settings.full - 1) (.failing f))).outcome (.failing f)).result =
        .error .clockRange := by
  have hpos : 0 < settings.full := Nat.lt_of_lt_of_le Nat.zero_lt_one (Nat.le_max_left 1 _)
  have hlast : settings.full - 1 < settings.full := Nat.sub_one_lt_of_lt hpos
  obtain ⟨good, hadmitted, hnow⟩ := @run_failing α name settings now f _ hlast
  generalize (fresh name settings now).run
    (List.replicate (settings.full - 1) (Visit.failing f)) = t at *
  have hshut := opens_replicate hlast now.millis
  rw [← hadmitted] at hshut
  have hends : t.ends (.failing f) = now.millis := hnow
  have hstreak : streak t.admitted + 1 = settings.full := by
    rw [hadmitted, streak_replicate]
    exact Nat.sub_add_cancel hpos
  refine outcome_overrun good ⟨refuses_nothing hshut _, rfl, ?_, ?_⟩
  · exact (Settings.opens_failure _).mpr (.inr hstreak)
  · rw [hends]
    exact h

/-- A breaker that opens at the first failure, for as many seconds as 64 bits hold. -/
def forever : Settings := ⟨1, (UInt64.size - 1) * 1000⟩

def down : Visit Nat := .failing (.badGateway "down")

/-- The failure of the inner endpoint does not get out, and the circuit does not open. -/
theorem a_failure_is_lost_when_the_circuit_cannot_open :
    ((fresh "test" forever ⟨0, 0⟩).outcome down).result = .error .clockRange ∧
      (((fresh "test" forever ⟨0, 0⟩).run [down]).session.guard.chain =
        [.breaker ⟨"test", forever, .closed 0⟩]) ∧
      ¬ ∀ past v, past ++ [v] <+: [down] →
        ((fresh "test" forever ⟨0, 0⟩).run past).Lawful "test" forever v := by
  have broken : ((fresh "test" forever ⟨0, 0⟩).outcome down).result = .error .clockRange := by
    rfl
  refine ⟨broken, by decide, ?_⟩
  intro lawful
  have result := ((lawful [] down (List.prefix_refl _)).admitted (by
    rintro ⟨u, hu, -⟩
    cases hu)).1
  cases broken.symm.trans result

end Series

end ServiceMesh.Breaker
