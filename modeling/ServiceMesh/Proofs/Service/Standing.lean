-- The layers around the operations of a server, as long as no call behind them
-- fails: only the limiter in front ever changes, or refuses a call, and every
-- breaker stays as it was made.
import ServiceMesh.Proofs.Endpoint.Quotas
import ServiceMesh.Service.Server

namespace ServiceMesh

/-! ## Quiet layers -/

/-- A layer that lets every call in: no limiter, and if a breaker, one that counts no
failures. -/
def Layer.Quiet : Layer → Prop
  | .breaker b => b.circuit = .closed 0
  | .limiter _ => False
  | _ => True

theorem Layer.enter_quiet {l : Layer} (h : l.Quiet) (now : Moment) :
    ∃ notes, l.enter now = (l, notes, .ok ()) := by
  cases l with
  | breaker b =>
    obtain ⟨name, settings, circuit⟩ := b
    obtain rfl : circuit = .closed 0 := h
    exact ⟨[], rfl⟩
  | limiter l => exact h.elim
  | _ => exact ⟨_, rfl⟩

theorem Layer.leave_quiet {l : Layer} (h : l.Quiet) (now : Moment) :
    ∃ notes, l.leave now (.ok ()) = (.ok l, notes) := by
  cases l with
  | breaker b =>
    obtain ⟨name, settings, circuit⟩ := b
    obtain rfl : circuit = .closed 0 := h
    exact ⟨[], rfl⟩
  | limiter l => exact h.elim
  | _ => exact ⟨_, rfl⟩

namespace Chain

theorem enter_quiet {c : Chain} (h : ∀ l ∈ c, l.Quiet) (now : Moment) :
    ∃ notes, enter now c = (⟨c, notes, none⟩, .ok ()) := by
  induction c with
  | nil => exact ⟨[], rfl⟩
  | cons l rest ih =>
    obtain ⟨inward, hl⟩ := Layer.enter_quiet (h l (by simp)) now
    obtain ⟨more, hrest⟩ := ih fun l hl => h l (List.mem_cons_of_mem _ hl)
    refine ⟨inward ++ more, ?_⟩
    unfold enter
    simp only [hl, hrest]

theorem leaveOne_ok {l l' : Layer} {now : Moment} {p : Passage} {notes : List Note}
    (h : l.leave now (.ok ()) = (.ok l', notes)) (hp : p.crash = none) :
    leaveOne now (.ok ()) l p = ⟨l' :: p.chain, p.notes ++ notes, none⟩ := by
  unfold leaveOne
  simp only [hp, Option.isNone_none, if_true, h]

theorem leave_quiet {c : Chain} (h : ∀ l ∈ c, l.Quiet) (now : Moment) :
    ∃ notes, leave now (.ok ()) c = ⟨c, notes, none⟩ := by
  induction c with
  | nil => exact ⟨[], rfl⟩
  | cons l rest ih =>
    obtain ⟨outward, hl⟩ := Layer.leave_quiet (h l (by simp)) now
    obtain ⟨more, hrest⟩ := ih fun l hl => h l (List.mem_cons_of_mem _ hl)
    refine ⟨more ++ outward, ?_⟩
    unfold leave
    rw [hrest, leaveOne_ok hl rfl]

/-! ## A limiter in front -/

/-- Quiet layers, with a limiter in front of them or none. -/
inductive Guarded (limited : Prop) (quiet : Chain) : Chain → Prop where
  | open_ : Guarded limited quiet quiet
  | limiter (h : limited) (l : Limiter) : Guarded limited quiet (.limiter l :: quiet)

/-- The refusal of a limiter. -/
def Exceeded (f : Failure) : Prop :=
  ∃ seconds, f = .tooManyRequests "Rate limit exceeded" (some seconds)

variable {limited : Prop} {quiet c : Chain}

/-- A call is let in, or the limiter refuses it, and the layers behind are as they were. -/
theorem Guarded.enter (h : Guarded limited quiet c) (hq : ∀ l ∈ quiet, l.Quiet) (now : Moment) :
    ∃ c' notes r, Chain.enter now c = (⟨c', notes, none⟩, r) ∧ Guarded limited quiet c' ∧
      (r = .ok () ∨ limited ∧ ∃ f, r = .error f ∧ Exceeded f) := by
  obtain ⟨notes, hquiet⟩ := enter_quiet hq now
  cases h with
  | open_ => exact ⟨quiet, notes, .ok (), hquiet, .open_, .inl rfl⟩
  | limiter hl l =>
    cases hc : l.check now.nanos with
    | ok l' =>
      refine ⟨.limiter l' :: quiet, notes, .ok (), ?_, .limiter hl l', .inl rfl⟩
      unfold Chain.enter Layer.enter
      simp only [hc, hquiet, List.nil_append]
    | error wait =>
      have refused : Chain.enter now (.limiter l :: quiet) = (⟨.limiter l :: quiet, [], none⟩,
          .error (.tooManyRequests "Rate limit exceeded" (some (Limiter.waitSeconds wait)))) := by
        unfold Chain.enter Layer.enter
        simp only [hc]
      exact ⟨_, _, _, refused, .limiter hl l, .inr ⟨hl, _, rfl, _, rfl⟩⟩

/-- A call that succeeds leaves the layers as they are. -/
theorem Guarded.leave (h : Guarded limited quiet c) (hq : ∀ l ∈ quiet, l.Quiet) (now : Moment) :
    ∃ notes, Chain.leave now (.ok ()) c = ⟨c, notes, none⟩ := by
  obtain ⟨notes, hquiet⟩ := leave_quiet hq now
  cases h with
  | open_ => exact ⟨notes, hquiet⟩
  | limiter hl l =>
    refine ⟨notes ++ [], ?_⟩
    unfold Chain.leave
    rw [hquiet]
    exact leaveOne_ok rfl rfl

end Chain

namespace EndpointConfig

/-! ## The layers of a server -/

/-- The layers of an operation behind its limiter. -/
def quiet (config : EndpointConfig) (op : Operation) : Chain :=
  [.breaker ⟨op.name, ⟨max config.maxFailures 1, config.openSeconds * 1000⟩, .closed 0⟩,
    .logging op.name, .instrumenting op.name]

theorem quiet_quiet (config : EndpointConfig) (op : Operation) :
    ∀ l ∈ config.quiet op, l.Quiet := by
  simp [quiet, Layer.Quiet]

/-- The layers of an operation as they can stand: only a limiter in front may change. -/
abbrev Standing (config : EndpointConfig) (op : Operation) (c : Chain) : Prop :=
  Chain.Guarded (config.rate ≠ 0) (config.quiet op) c

theorem standing_breakers {config : EndpointConfig} {op : Operation} {c : Chain}
    (h : config.Standing op c) : c.breakers.map (·.circuit) = [.closed 0] := by
  cases h with
  | open_ => rfl
  | limiter hl l => rfl

/-- Every rate of 32 bits makes a chain. -/
theorem exists_chain (config : EndpointConfig) (hr : config.rate < UInt32.size)
    (op : Operation) : ∃ c, config.chain op = .ok c ∧ config.Standing op c := by
  unfold chain Chain.standard
  by_cases h : config.rate = 0
  · rw [if_pos h]
    exact ⟨_, rfl, .open_⟩
  · obtain ⟨quota, hq⟩ := Quota.exists_perSecond hr
    rw [if_neg h, hq]
    exact ⟨_, rfl, .limiter h ⟨quota, none⟩⟩

end EndpointConfig

namespace Server

variable {σ : Type} {config : EndpointConfig} {s : Server σ}

/-! ## The layers of a whole server -/

/-- Every operation of the service has its layers, as they can stand. -/
structure Stands (config : EndpointConfig) (kind : ServiceKind) (s : Server σ) : Prop where
  operations : s.chains.map Prod.fst = Operation.ofService kind
  standing : ∀ p ∈ s.chains, config.Standing p.1 p.2

/-- Every operation of the service has one breaker, which is closed and counts no failures. -/
theorem Stands.circuits {kind : ServiceKind} (h : s.Stands config kind) :
    s.chains.map (fun p => (p.1, p.2.breakers.map (·.circuit))) =
      (Operation.ofService kind).map fun op => (op, [.closed 0]) := by
  rw [← h.operations, List.map_map]
  refine List.map_congr_left ?_
  intro p hp
  rw [EndpointConfig.standing_breakers (h.standing p hp)]
  rfl

theorem putGuard_operations (op : Operation) (g : Guard) :
    (s.putGuard op g).chains.map Prod.fst = s.chains.map Prod.fst := by
  unfold putGuard
  rw [List.map_map]
  refine List.map_congr_left ?_
  intro p _
  simp only [Function.comp_apply]
  split <;> rfl

/-- The layers of an operation, as its guard has them, and what may take their place. An operation
of another service has none. -/
theorem Stands.guards {kind : ServiceKind} (h : s.Stands config kind) (op : Operation) :
    ∃ quiet : Chain, (∀ l ∈ quiet, l.Quiet) ∧
      Chain.Guarded (config.rate ≠ 0) quiet (s.guard op).chain ∧
      ∀ g : Guard, Chain.Guarded (config.rate ≠ 0) quiet g.chain →
        (s.putGuard op g).Stands config kind := by
  cases hf : s.chains.find? (·.1 = op) with
  | none =>
    -- An operation of another service goes in and out through no layers, and they are put nowhere.
    have none : ∀ p ∈ s.chains, p.1 ≠ op := by simpa using hf
    refine ⟨[], by simp, ?_, ?_⟩
    · unfold Server.guard
      rw [hf]
      exact .open_
    · intro g _
      refine ⟨(putGuard_operations op g).trans h.operations, ?_⟩
      intro p hp
      obtain ⟨p', hp', rfl⟩ := List.mem_map.mp hp
      simp only [if_neg (none p' hp')]
      exact h.standing p' hp'
  | some p =>
    obtain rfl : p.1 = op := by simpa using List.find?_some hf
    refine ⟨config.quiet p.1, config.quiet_quiet p.1, ?_, ?_⟩
    · unfold Server.guard
      rw [hf]
      exact h.standing p (List.mem_of_find?_eq_some hf)
    · intro g hg
      refine ⟨(putGuard_operations p.1 g).trans h.operations, ?_⟩
      intro q hq
      obtain ⟨q', hq', rfl⟩ := List.mem_map.mp hq
      by_cases hop : q'.1 = p.1
      · simp only [if_pos hop]
        rw [hop]
        exact hg
      · simp only [if_neg hop]
        exact h.standing q' hq'

/-- A call is let in, or a limiter refuses it. -/
theorem Stands.run_enter {kind : ServiceKind} (h : s.Stands config kind) (op : Operation) :
    ∃ g notes r, (Guard.enter.on (guard op) (putGuard op)).run s =
        ⟨.ok r, s.putGuard op g, notes⟩ ∧ (s.putGuard op g).Stands config kind ∧
      (r = .ok () ∨ config.rate ≠ 0 ∧ ∃ f, r = .error f ∧ Chain.Exceeded f) := by
  obtain ⟨quiet, hq, hg, back⟩ := h.guards op
  obtain ⟨c, notes, r, henter, hc, hr⟩ := hg.enter hq s.now
  have entered := Guard.run_enter (g := s.guard op) henter
  exact ⟨_, _, r, Act.run_on entered, back _ hc, hr⟩

/-- A call that succeeds comes out. -/
theorem Stands.run_leave {kind : ServiceKind} (h : s.Stands config kind) (op : Operation) :
    ∃ g notes, ((Guard.leave (.ok ())).on (guard op) (putGuard op)).run s =
        ⟨.ok (), s.putGuard op g, notes⟩ ∧ (s.putGuard op g).Stands config kind := by
  obtain ⟨quiet, hq, hg, back⟩ := h.guards op
  obtain ⟨notes, hleave⟩ := hg.leave hq s.now
  have left := Guard.run_leave (g := s.guard op) hleave
  exact ⟨_, _, Act.run_on left, back _ hg⟩

theorem exists_chains (config : EndpointConfig) (hr : config.rate < UInt32.size)
    (ops : List Operation) : ∃ chains : List (Operation × Chain),
      (ops.mapM fun op => do return (op, ← config.chain op)) = Except.ok chains ∧
        chains.map Prod.fst = ops ∧ ∀ p ∈ chains, config.Standing p.1 p.2 := by
  induction ops with
  | nil => exact ⟨[], rfl, rfl, by simp⟩
  | cons op ops ih =>
    obtain ⟨c, hc, hstanding⟩ := config.exists_chain hr op
    obtain ⟨chains, hchains, hops, hall⟩ := ih
    refine ⟨(op, c) :: chains, ?_, by simp [hops], ?_⟩
    · rw [List.mapM_cons, hchains, hc]
      rfl
    · intro p hp
      rcases List.mem_cons.mp hp with rfl | hp
      · exact hstanding
      · exact hall p hp

/-- A server starts, whatever its settings, and its layers stand. -/
theorem exists_start (config : EndpointConfig) (hr : config.rate < UInt32.size)
    (kind : ServiceKind) (now : Moment) (accounts : Accounts σ) :
    ∃ s : Server σ, start kind config now accounts = .ok s ∧ s.Stands config kind ∧
      s.accounts = accounts := by
  obtain ⟨chains, hchains, hops, hall⟩ := exists_chains config hr (Operation.ofService kind)
  refine ⟨⟨kind, chains, now, accounts⟩, ?_, ⟨hops, hall⟩, rfl⟩
  unfold start
  rw [hchains]
  rfl

end Server

end ServiceMesh
