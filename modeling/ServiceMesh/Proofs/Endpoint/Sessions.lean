-- Overlapping calls through the layers around an endpoint: what their breakers have
-- counted, and that every call gets out as long as the clock reaches as far as their
-- periods.
import ServiceMesh.Endpoint.Session
import ServiceMesh.Proofs.Endpoint.Periods

namespace ServiceMesh

/-! ## Layers that keep count -/

/-- A breaker breaks off only where the clock does not reach to the end of a period. -/
theorem Breaker.limit_le_of_record_error {b : Breaker} {now : Instant} {success : Bool} {c : Crash}
    (h : (b.record now success).1 = .error c) : Instant.limit ≤ now + b.settings.openFor := by
  by_contra hlt
  have hopens := openFrom_ok b now (Nat.lt_of_not_le hlt)
  unfold record at h
  cases hc : b.circuit with
  | closed failures =>
    cases success with
    | true => simp [hc] at h
    | false =>
      by_cases hmax : b.settings.maxFailures ≤ failures + 1 <;> simp [hc, hmax, hopens] at h
  | opened u => cases success <;> simp [hc] at h
  | halfOpen trial => cases success <;> simp [hc, hopens] at h

namespace Layer

variable {settings : Breaker.Settings} {l : Layer}

/-- A breaker goes by the settings, and has counted as they say. -/
def Keeps (settings : Breaker.Settings) : Layer → Prop
  | .breaker b => b.settings = settings ∧ b.circuit.KeepsCount settings
  | _ => True

/-- What a layer makes of the end of a call: it keeps count, or breaks off at an instant from
which the clock does not reach to the end of a period. -/
inductive Ends (settings : Breaker.Settings) (now : Moment) : Except Crash Layer → Prop where
  | ok (l : Layer) (h : l.Keeps settings) : Ends settings now (.ok l)
  | brokeOff (h : Instant.limit ≤ now.millis + settings.openFor) :
    Ends settings now (.error .clockRange)

theorem Keeps.enter (h : l.Keeps settings) (now : Moment) : (l.enter now).1.Keeps settings := by
  cases l with
  | tag name => trivial
  | breaker b =>
    obtain ⟨hs, hc⟩ := h
    obtain ⟨passed, hasked, hsame, -⟩ := b.enter_asked now.millis
    exact ⟨hsame.trans hs, hasked.keepsCount hc⟩
  | limiter limit =>
    simp only [Layer.enter]
    cases limit.check now.nanos <;> trivial
  | logging method => trivial
  | instrumenting method => trivial

theorem Keeps.record {b : Breaker} (h : (Layer.breaker b).Keeps settings) (now : Moment)
    (success : Bool) : Ends settings now ((b.record now.millis success).1.map .breaker) := by
  obtain ⟨hs, hc⟩ := h
  obtain ⟨b', hended, hsame, hb | ⟨rfl, hb⟩⟩ := b.record_ended now.millis success
  · rw [hb]
    rw [hs] at hended
    exact .ok _ ⟨hsame.trans hs, hended.keepsCount hc⟩
  · have hlimit := Breaker.limit_le_of_record_error hb
    rw [hs] at hlimit
    rw [hb]
    exact .brokeOff hlimit

theorem Keeps.leave (h : l.Keeps settings) (now : Moment) (r : Except Failure Unit) :
    Ends settings now (l.leave now r).1 := by
  cases l with
  | breaker b => exact h.record now r.isOk
  | tag name => exact .ok _ trivial
  | limiter limit => exact .ok _ trivial
  | logging method => exact .ok _ trivial
  | instrumenting method => exact .ok _ trivial

theorem Keeps.abandon (h : l.Keeps settings) (now : Moment) :
    Ends settings now (l.abandon now).1 := by
  cases l with
  | breaker b => exact h.record now false
  | tag name => exact .ok _ trivial
  | limiter limit => exact .ok _ trivial
  | logging method => exact .ok _ trivial
  | instrumenting method => exact .ok _ trivial

end Layer

namespace Chain

variable {settings : Breaker.Settings} {now : Moment} {c : Chain}

/-- All breakers of the chain go by the settings. -/
def Keeps (settings : Breaker.Settings) (c : Chain) : Prop := ∀ l ∈ c, l.Keeps settings

theorem keeps_cons {l : Layer} : Keeps settings (l :: c) ↔ l.Keeps settings ∧ c.Keeps settings :=
  List.forall_mem_cons

/-- A passage after which the chain keeps count. It breaks off only where the clock does not
reach to the end of a period. -/
structure Passage.Ends (settings : Breaker.Settings) (now : Moment) (p : Passage) : Prop where
  keeps : p.chain.Keeps settings
  range : ∀ crash, p.crash = some crash → Instant.limit ≤ now.millis + settings.openFor

theorem Passage.Ends.whole {p : Passage} (hp : p.Ends settings now)
    (h : now.millis + settings.openFor < Instant.limit) : p.crash = none := by
  cases hcrash : p.crash with
  | none => rfl
  | some crash => exact absurd h (Nat.not_lt.mpr (hp.range crash hcrash))

theorem ends_nil : Passage.Ends settings now ⟨[], [], none⟩ where
  keeps := by
    intro l hl
    cases hl
  range := by
    intro crash h
    cases h

theorem Passage.Ends.leaveOne {l : Layer} {p : Passage} (hp : p.Ends settings now)
    (hl : l.Keeps settings) (r : Except Failure Unit) :
    (Chain.leaveOne now r l p).Ends settings now := by
  have ends : Layer.Ends settings now
      (if p.crash.isNone then l.leave now r else l.abandon now).1 := by
    by_cases hnone : p.crash.isNone
    · rw [if_pos hnone]
      exact hl.leave now r
    · rw [if_neg hnone]
      exact hl.abandon now
  unfold Chain.leaveOne
  generalize (if p.crash.isNone then l.leave now r else l.abandon now) = out at ends
  obtain ⟨result, notes⟩ := out
  cases ends with
  | ok l' hl' => exact ⟨keeps_cons.mpr ⟨hl', hp.keeps⟩, hp.range⟩
  | brokeOff hlimit => exact ⟨keeps_cons.mpr ⟨hl, hp.keeps⟩, fun _ _ => hlimit⟩

theorem Keeps.leave (h : c.Keeps settings) (now : Moment) (r : Except Failure Unit) :
    (Chain.leave now r c).Ends settings now := by
  induction c with
  | nil => exact ends_nil
  | cons l rest ih =>
    obtain ⟨hl, hrest⟩ := keeps_cons.mp h
    exact (ih hrest).leaveOne hl r

theorem Keeps.abandon (h : c.Keeps settings) (now : Moment) :
    (Chain.abandon now c).Ends settings now := by
  induction c with
  | nil => exact ends_nil
  | cons l rest ih =>
    obtain ⟨hl, hrest⟩ := keeps_cons.mp h
    have hp := ih hrest
    have ends := hl.abandon now
    unfold Chain.abandon
    generalize l.abandon now = out at ends
    obtain ⟨result, notes⟩ := out
    cases ends with
    | ok l' hl' => exact ⟨keeps_cons.mpr ⟨hl', hp.keeps⟩, hp.range⟩
    | brokeOff hlimit => exact ⟨keeps_cons.mpr ⟨hl, hp.keeps⟩, fun _ _ => hlimit⟩

theorem Keeps.enter (h : c.Keeps settings) (now : Moment) :
    (Chain.enter now c).1.Ends settings now := by
  induction c with
  | nil => exact ends_nil
  | cons l rest ih =>
    obtain ⟨hl, hrest⟩ := keeps_cons.mp h
    have entered := hl.enter now
    have hp := ih hrest
    unfold Chain.enter
    generalize l.enter now = out at entered
    obtain ⟨l', notes, result⟩ := out
    cases result with
    | error f => exact ⟨keeps_cons.mpr ⟨entered, hrest⟩, by simp⟩
    | ok _ =>
      simp only
      generalize Chain.enter now rest = passage at hp
      obtain ⟨p, result⟩ := passage
      cases result with
      | error f =>
        have hone := hp.leaveOne entered (.error f)
        exact ⟨hone.keeps, hone.range⟩
      | ok _ => exact ⟨keeps_cons.mpr ⟨entered, hp.keeps⟩, hp.range⟩

/-- Nothing breaks off over a call that is let in. -/
theorem whole_of_admitted {p : Passage} (h : Chain.enter now c = (p, .ok ())) : p.crash = none := by
  induction c generalizing p with
  | nil =>
    cases h
    rfl
  | cons l rest ih =>
    unfold Chain.enter at h
    generalize l.enter now = out at h
    obtain ⟨l', notes, result⟩ := out
    cases result with
    | error f => cases h
    | ok _ =>
      simp only at h
      cases hrest : Chain.enter now rest with
      | mk inner result =>
        rw [hrest] at h
        cases result with
        | error f => cases h
        | ok _ =>
          cases h
          have hwhole := ih hrest
          exact hwhole

end Chain

namespace Session

variable {α β : Type}

/-! ## How the steps run -/

/-- The request of the call that is inside under a name. -/
def find? (id : String) (s : Session α) : Option α := (s.inside.find? (·.1 == id)).map (·.2)

/-- The session without that call. -/
def without (id : String) (s : Session α) : Session α :=
  { s with inside := s.inside.eraseP (·.1 == id) }

variable {s : Session α} {id : String} {x : α} {p : Chain.Passage} {r : Except Failure Unit}

theorem run_advance (s : Session α) (millis : Nat) :
    (advance millis).run s =
      ⟨.ok (), { s with guard.now.millis := s.guard.now.millis + millis }, []⟩ := rfl

theorem run_takeOut (id : String) (s : Session α) :
    (takeOut id).run s = ⟨.ok (s.find? id), s.without id, []⟩ := by
  unfold takeOut
  rw [Act.run_bind_ok (Act.run_get s), Act.run_bind_ok (Act.run_modify _ s)]
  rfl

theorem run_enter (h : Chain.enter s.guard.now s.guard.chain = (p, r)) :
    (atGuard Guard.enter).run s =
      ⟨Guard.passed p r, { s with guard := s.guard.after p }, p.notes⟩ :=
  Act.run_on (Guard.run_enter h)

theorem run_start_admitted (h : Chain.enter s.guard.now s.guard.chain = (p, .ok ()))
    (id : String) (x : α) : ∃ notes, (start id x).run s = ⟨.ok none,
      ⟨s.guard.after p, (id, x) :: s.inside, s.reached + 1⟩, notes⟩ := by
  have hin := run_enter h
  rw [Guard.passed_ok (Chain.whole_of_admitted h)] at hin
  exact ⟨_, Act.run_bind_ok hin⟩

theorem run_start_refused {f : Failure}
    (h : Chain.enter s.guard.now s.guard.chain = (p, .error f)) (id : String) (x : α) :
    ∃ notes, (start id x).run s =
      ⟨Guard.passed p (some f), { s with guard := s.guard.after p }, notes⟩ := by
  have hin := run_enter h
  cases hcrash : p.crash with
  | none =>
    rw [Guard.passed_ok hcrash] at hin ⊢
    exact ⟨_, Act.run_bind_ok hin⟩
  | some c =>
    rw [Guard.passed_error hcrash] at hin ⊢
    exact ⟨_, Act.run_bind_error _ hin⟩

theorem run_finish_nobody (h : s.find? id = none) (failure : Option Failure) :
    (finish id failure).run s = ⟨.ok none, s.without id, []⟩ := by
  unfold finish
  rw [Act.run_bind_ok (run_takeOut id s), h]
  rfl

/-- How a call ends that is told to end well or with a failure. -/
def ending (x : α) : Option Failure → Except Failure α
  | none => .ok x
  | some f => .error f

theorem run_finish (h : s.find? id = some x) (failure : Option Failure)
    (hp : Chain.leave s.guard.now ((ending x failure).map fun _ => ()) s.guard.chain = p) :
    (finish id failure).run s = ⟨Guard.passed p (some (ending x failure)),
      { s.without id with guard := s.guard.after p }, p.notes⟩ := by
  have hleave : (atGuard (Guard.leave ((ending x failure).map fun _ => ()))).run (s.without id) =
      ⟨Guard.passed p (), { s.without id with guard := s.guard.after p }, p.notes⟩ :=
    Act.run_on (Guard.run_leave hp)
  unfold finish
  rw [Act.run_bind_ok (run_takeOut id s), h]
  have ended := Guard.run_passed hleave fun _ => some (ending x failure)
  cases failure <;> exact ended

theorem run_drop_nobody (h : s.find? id = none) :
    (drop id).run s = ⟨.ok false, s.without id, []⟩ := by
  unfold drop
  rw [Act.run_bind_ok (run_takeOut id s), h]
  rfl

theorem run_drop (h : s.find? id = some x)
    (hp : Chain.abandon s.guard.now s.guard.chain = p) :
    (drop id).run s =
      ⟨Guard.passed p true, { s.without id with guard := s.guard.after p }, p.notes⟩ := by
  have habandon : (atGuard Guard.abandon).run (s.without id) =
      ⟨Guard.passed p (), { s.without id with guard := s.guard.after p }, p.notes⟩ :=
    Act.run_on (Guard.run_abandon hp)
  unfold drop
  rw [Act.run_bind_ok (run_takeOut id s), h]
  exact Guard.run_passed habandon fun _ => true

/-! ## Runs of overlapping calls -/

/-- An event of the calls through a chain. -/
inductive Event (α : Type) where
  | start (id : String) (request : α)
  /-- A call that is inside ends, well or with the given failure. -/
  | finish (id : String) (failure : Option Failure)
  | drop (id : String)
  | advance (millis : Nat)

def step (s : Session α) : Event α → Session α
  | .start id x => ((start id x).run s).state
  | .finish id failure => ((finish id failure).run s).state
  | .drop id => ((drop id).run s).state
  | .advance millis => ((advance millis).run s).state

def run (s : Session α) (events : List (Event α)) : Session α := events.foldl step s

theorem run_snoc (s : Session α) (past : List (Event α)) (e : Event α) :
    s.run (past ++ [e]) = (s.run past).step e := List.foldl_append

variable {settings : Breaker.Settings}

/-- The layers keep count over an act, and it gives a value if the clock reaches to the end of
a period. -/
structure Ends (settings : Breaker.Settings) (s : Session α) (x : β)
    (o : Outcome (Session α) β) : Prop where
  keeps : o.state.guard.chain.Keeps settings
  gives : s.guard.now.millis + settings.openFor < Instant.limit → o.result = .ok x

theorem ends_of_passage {x : β} {o : Outcome (Session α) β}
    (hp : p.Ends settings s.guard.now) (hresult : o.result = Guard.passed p x)
    (hchain : o.state.guard.chain = p.chain) : Ends settings s x o where
  keeps := by
    rw [hchain]
    exact hp.keeps
  gives := by
    intro h
    rw [hresult, Guard.passed_ok (hp.whole h)]

/-- A call that ends gets its own result, and a call that is not inside none. -/
theorem finish_ends (h : s.guard.chain.Keeps settings) (id : String) (failure : Option Failure) :
    Ends settings s ((s.find? id).map fun x => ending x failure) ((finish id failure).run s) := by
  cases hfind : s.find? id with
  | none =>
    rw [run_finish_nobody hfind]
    exact ⟨h, fun _ => rfl⟩
  | some x =>
    have ran := run_finish hfind failure rfl
    rw [ran]
    exact ends_of_passage (h.leave _ _) rfl rfl

theorem drop_ends (h : s.guard.chain.Keeps settings) (id : String) :
    Ends settings s (s.find? id).isSome ((drop id).run s) := by
  cases hfind : s.find? id with
  | none =>
    rw [run_drop_nobody hfind]
    exact ⟨h, fun _ => rfl⟩
  | some x =>
    rw [run_drop hfind rfl]
    exact ends_of_passage (h.abandon _) rfl rfl

/-- A call that asks goes in, or gets a refusal. -/
theorem start_ends (h : s.guard.chain.Keeps settings) (id : String) (x : α) :
    ∃ refusal, Ends settings s refusal ((start id x).run s) := by
  have hp := h.enter s.guard.now
  cases henter : Chain.enter s.guard.now s.guard.chain with
  | mk p r =>
    rw [henter] at hp
    cases r with
    | error f =>
      obtain ⟨notes, ran⟩ := run_start_refused henter id x
      rw [ran]
      exact ⟨some f, ends_of_passage hp rfl rfl⟩
    | ok _ =>
      obtain ⟨notes, ran⟩ := run_start_admitted henter id x
      rw [ran]
      exact ⟨none, hp.keeps, fun _ => rfl⟩

theorem keeps_step (h : s.guard.chain.Keeps settings) (e : Event α) :
    (s.step e).guard.chain.Keeps settings := by
  cases e with
  | start id x =>
    obtain ⟨refusal, ends⟩ := start_ends h id x
    exact ends.keeps
  | finish id failure => exact (finish_ends h id failure).keeps
  | drop id => exact (drop_ends h id).keeps
  | advance millis => exact h

theorem keeps_run (h : s.guard.chain.Keeps settings) (events : List (Event α)) :
    (s.run events).guard.chain.Keeps settings := by
  induction events using List.reverseRecOn with
  | nil => exact h
  | append_singleton past e ih =>
    rw [run_snoc]
    exact keeps_step ih e

/-- Calls that overlap, through layers that nobody has passed yet. -/
def fresh (c : Chain) (now : Moment) : Session α := { guard := ⟨c, now⟩ }

/-- What every call of a session may rely on. -/
structure Reliable (settings : Breaker.Settings) (s : Session α) : Prop where
  /-- A closed circuit has counted fewer failures than open it. -/
  counts : ∀ b, Layer.breaker b ∈ s.guard.chain → ∀ failures, b.circuit = .closed failures →
    failures < max 1 settings.maxFailures
  /-- If the clock reaches to the end of a period, a call that ends gets its own result, whether
  or not a circuit opens over it. -/
  finishes : s.guard.now.millis + settings.openFor < Instant.limit → ∀ id failure,
    ((finish id failure).run s).result = .ok ((s.find? id).map fun x => ending x failure)
  drops : s.guard.now.millis + settings.openFor < Instant.limit → ∀ id,
    ((drop id).run s).result = .ok (s.find? id).isSome
  starts : s.guard.now.millis + settings.openFor < Instant.limit → ∀ id x,
    ∃ refusal, ((start id x).run s).result = .ok refusal

theorem reliable_run {c : Chain} (hc : c.Keeps settings) (now : Moment)
    (events : List (Event α)) : ((fresh c now).run events).Reliable settings := by
  have keeps : ((fresh c now).run events).guard.chain.Keeps settings := keeps_run hc events
  refine ⟨?_, ?_, ?_, ?_⟩
  · intro b hb failures hclosed
    have count := (keeps _ hb).2
    rw [hclosed] at count
    exact count
  · intro hreach id failure
    exact (finish_ends keeps id failure).gives hreach
  · intro hreach id
    exact (drop_ends keeps id).gives hreach
  · intro hreach id x
    obtain ⟨refusal, ends⟩ := start_ends keeps id x
    exact ⟨refusal, ends.gives hreach⟩

end Session

end ServiceMesh
