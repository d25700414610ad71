-- Calls that bring whatever they like, and that nobody gives up: no breaker of the
-- services ever counts a failure, only a limiter refuses calls, and every broken rule
-- is told inside an answer.
import ServiceMesh.Proofs.Account.OverlapLaws
import ServiceMesh.Proofs.Service.CalmWork

namespace ServiceMesh.Server

/-! ## What one step of a call can do -/

/-- What a call may end with: an answer of the service's own, or the refusal of a limiter that
was set. -/
def Settled (config : EndpointConfig) (op : Operation) (result : Except Failure op.Answer) :
    Prop :=
  (∃ a, result = .ok a ∧ op.IsOwn a) ∨
    config.rate ≠ 0 ∧ ∃ f, result = .error f ∧ Chain.Exceeded f

/-- Where a call may stand. -/
def Stage.Fine (s : Accounts.Setting Users) (config : EndpointConfig) {op : Operation} :
    Stage op → Prop
  | .asked => True
  | .working w => Work.Held s op w
  | .leaving result => ∃ a, result = .ok a ∧ op.IsOwn a
  | .done result => Settled config op result
  | .crashed _ => False

/-- All that a step of a call can do to the server, and where it leads the call. -/
inductive Moves (s : Accounts.Setting Users) (config : EndpointConfig) (kind : ServiceKind)
    (server : Server Users) (op : Operation) (r : op.Request) :
    Stage op → Server Users → Stage op → Prop where
  | letIn (g : Guard) : (server.putGuard op g).Stands config kind →
    Moves s config kind server op r .asked (server.putGuard op g) (.working (Work.start op))
  | refused (g : Guard) {f : Failure} : (server.putGuard op g).Stands config kind →
    config.rate ≠ 0 → Chain.Exceeded f →
    Moves s config kind server op r .asked (server.putGuard op g) (.done (.error f))
  | worked {w : Work op} {b : Accounts Users} {x : Progress op} :
    Comes s server.accounts op r w b x →
    Moves s config kind server op r (.working w) { server with accounts := b } (.worked x)
  | cameOut (g : Guard) {a : op.Answer} : (server.putGuard op g).Stands config kind →
    Moves s config kind server op r (.leaving (.ok a)) (server.putGuard op g) (.done (.ok a))
  | ended {result : Except Failure op.Answer} :
    Moves s config kind server op r (.done result) server (.done result)

variable {s : Accounts.Setting Users} {config : EndpointConfig} {kind : ServiceKind}
  {server server' : Server Users} {op : Operation} {r : op.Request} {stage stage' : Stage op}

/-- Every step of a call does that. -/
theorem step_moves (hs : Sturdy s) (hstands : server.Stands config kind)
    (hfit : Fit s server.accounts) (hfine : stage.Fine s config) :
    ∃ server' stage', stage.step s op r server = (server', stage') ∧
      Moves s config kind server op r stage server' stage' := by
  cases stage with
  | asked =>
    obtain ⟨g, notes, x, hrun, hg, hx⟩ := hstands.run_enter op
    unfold Stage.step
    simp only
    rw [hrun]
    rcases hx with rfl | ⟨hrate, f, rfl, hf⟩
    · exact ⟨_, _, rfl, .letIn g hg⟩
    · exact ⟨_, _, rfl, .refused g hg hrate hf⟩
  | working w =>
    -- What other calls have done to the accounts in between is in `hfit`; no more is needed.
    obtain ⟨b, x, notes, hrun, hcomes⟩ := works hs hfit op r hfine
    exact ⟨_, _, step_working hrun, .worked hcomes⟩
  | leaving result =>
    obtain ⟨a, rfl, _⟩ := hfine
    obtain ⟨g, notes, hrun, hg⟩ := hstands.run_leave op
    unfold Stage.step
    simp only [Except.map]
    rw [hrun]
    exact ⟨_, _, rfl, .cameOut g hg⟩
  | done result => exact ⟨_, _, rfl, .ended⟩
  | crashed c => exact hfine.elim

/-! ## What every step keeps -/

theorem Moves.stands (h : Moves s config kind server op r stage server' stage')
    (hstands : server.Stands config kind) : server'.Stands config kind := by
  cases h with
  | letIn g hg => exact hg
  | refused g hg _ _ => exact hg
  | worked _ => exact ⟨hstands.operations, hstands.standing⟩
  | cameOut g hg => exact hg
  | ended => exact hstands

theorem Comes.fit {a b : Accounts Users} {w : Work op} {x : Progress op}
    (h : Comes s a op r w b x) (hfit : Fit s a) (held : Work.Held s op w) : Fit s b := by
  cases h with
  | rejects hb hstored hnow =>
    refine ⟨?_, ?_⟩
    · rw [hstored]
      exact hfit.readable
    · rw [hnow]
      exact hfit.issues
  | goesOn _ hp => exact hp.fit hfit held
  | answers _ hp => exact hp.fit hfit held

theorem Moves.fit (h : Moves s config kind server op r stage server' stage')
    (hfit : Fit s server.accounts) (hfine : stage.Fine s config) : Fit s server'.accounts := by
  cases h with
  | worked hcomes => exact hcomes.fit hfit hfine
  | _ => exact hfit

theorem Moves.fine (hs : Sturdy s) (h : Moves s config kind server op r stage server' stage')
    (hfit : Fit s server.accounts) (hfine : stage.Fine s config) : stage'.Fine s config := by
  cases h with
  | letIn g hg => exact held_start s op
  | refused g hg hrate hf => exact .inr ⟨hrate, _, rfl, hf⟩
  | worked hcomes =>
    cases hcomes with
    | rejects hb _ _ => exact ⟨_, rfl, hb.own⟩
    | goesOn _ hp => exact hp.held hs hfit
    | answers _ hp => exact ⟨_, rfl, isOwn_value op _⟩
  | cameOut g hg =>
    obtain ⟨a, ha, hown⟩ := hfine
    exact .inl ⟨a, ha, hown⟩
  | ended => exact hfine

/-- A step leads to a rejection exactly if it finds the rule broken that the rejection tells of. -/
theorem Moves.rejects_iff {w : Work op} {e : op.Refusal}
    (h : Moves s config kind server op r (.working w) server' stage') :
    stage' = .leaving (.ok (.error e)) ↔ Breaks s server.accounts op r w e := by
  cases h with
  | worked hcomes =>
    cases hcomes with
    | rejects hb _ _ =>
      constructor
      · intro hstage
        cases hstage
        exact hb
      · intro hb'
        rw [hb'.unique hb]
        rfl
    | goesOn hnone _ =>
      constructor
      · intro hstage
        cases hstage
      · intro hb
        exact absurd hb (hnone e)
    | answers hnone _ =>
      constructor
      · intro hstage
        cases hstage
      · intro hb
        exact absurd hb (hnone e)

/-- The call has this answer, on its way out or out already. -/
def Stage.Carries (a : op.Answer) (stage : Stage op) : Prop :=
  stage = .leaving (.ok a) ∨ stage = .done (.ok a)

theorem Moves.carries {a : op.Answer} (h : Moves s config kind server op r stage server' stage')
    (hc : stage.Carries a) : stage'.Carries a := by
  rcases hc with rfl | rfl
  · cases h with
    | cameOut g hg => exact .inr rfl
  · cases h with
    | ended => exact .inr rfl

/-! ## How many steps are left -/

def Work.left : (op : Operation) → Work op → Nat
  | .register, .hashing => 2
  | .register, .inserting _ => 1
  | .register, .ended _ => 0
  | .updatePassword, .finding => 4
  | .updatePassword, .verifying _ => 3
  | .updatePassword, .hashing _ => 2
  | .updatePassword, .replacing _ _ => 1
  | .updatePassword, .ended _ => 0
  | .sum, _ | .concat, _ | .uppercase, _ | .count, _ | .login, _ | .validToken, _ => 1

/-- The steps that a call has left, at most. -/
def Stage.left : Stage op → Nat
  | .asked => 6
  | .working w => Work.left op w + 1
  | .leaving _ => 1
  | .done _ | .crashed _ => 0

theorem Work.left_le (op : Operation) (w : Work op) : Work.left op w ≤ 4 := by
  cases op <;> cases w <;> simp [Work.left]

theorem Stage.left_le (stage : Stage op) : stage.left ≤ 6 := by
  cases stage with
  | working w =>
    have most := Work.left_le op w
    change Work.left op w + 1 ≤ 6
    omega
  | _ => simp [Stage.left]

theorem Comes.left {a b : Accounts Users} {w : Work op} {x : Progress op}
    (h : Comes s a op r w b x) : (Stage.worked x).left ≤ Work.left op w := by
  cases h with
  | rejects hb _ _ => cases hb <;> simp [Stage.worked, Stage.left, Work.left]
  | goesOn _ hp => cases hp <;> exact Nat.le_refl _
  | answers _ hp => cases hp <;> exact Nat.le_refl _

theorem Moves.left (h : Moves s config kind server op r stage server' stage') :
    stage'.left ≤ stage.left - 1 := by
  cases h with
  | letIn g hg =>
    cases op <;> decide
  | refused g hg _ _ => exact Nat.zero_le _
  | worked hcomes => exact hcomes.left
  | cameOut g hg => exact Nat.le_refl _
  | ended => exact Nat.le_refl _

theorem done_of_left {stage : Stage op} (h : stage.left = 0) (hfine : stage.Fine s config) :
    ∃ result, stage = .done result := by
  cases stage with
  | done result => exact ⟨result, rfl⟩
  | crashed c => exact hfine.elim
  | _ => cases h

/-! ## A call that is alone -/

/-- Steps of a call keep all that one step keeps. -/
theorem steps_fine (hs : Sturdy s) (n : Nat) (hstands : server.Stands config kind)
    (hfit : Fit s server.accounts) (hfine : stage.Fine s config) :
    (Stage.steps s op r n (server, stage)).2.Fine s config := by
  induction n generalizing server stage with
  | zero => exact hfine
  | succ n ih =>
    obtain ⟨server', stage', hstep, hmoves⟩ := step_moves (r := r) hs hstands hfit hfine
    unfold Stage.steps
    rw [hstep]
    exact ih (hmoves.stands hstands) (hmoves.fit hfit hfine) (hmoves.fine hs hfit hfine)

/-- A call with no other call beside it comes to its end, where its steps lead. -/
theorem call_settles (hs : Sturdy s) (hstands : server.Stands config kind)
    (hfit : Fit s server.accounts) (op : Operation) (r : op.Request) :
    ∃ result server' notes, (call s op r).run server = ⟨.ok result, server', notes⟩ ∧
      Leads s op r (server, .asked) (server', .done result) ∧ Settled config op result := by
  have leads := leads_call hs.in_memory op r server
  obtain ⟨n, hn⟩ := leads
  have fine : (Stage.steps s op r n (server, .asked)).2.Fine s config :=
    steps_fine hs n hstands hfit trivial
  rw [hn] at fine
  match hcall : (call s op r).run server with
  | ⟨.ok result, server', notes⟩ =>
    rw [hcall] at hn fine
    exact ⟨result, server', notes, rfl, ⟨n, hn⟩, fine⟩
  | ⟨.error c, server', notes⟩ =>
    rw [hcall] at fine
    exact fine.elim

/-! ## Many calls -/

/-- A clock is set only to seconds at which tokens can be made. -/
def Event.InTime (s : Accounts.Setting Users) : Event → Prop
  | .clock _ second => Issues s second
  | _ => True

def Event.isTurn (i : Nat) : Event → Bool
  | .turn j => j = i
  | _ => false

/-- How many turns a call has in the events. -/
def turnsOf (i : Nat) (events : List Event) : Nat := events.countP (Event.isTurn i)

/-- Traffic in which nothing has gone wrong. -/
structure Calm (s : Accounts.Setting Users) (config : EndpointConfig) (kind : ServiceKind)
    (t : Traffic) : Prop where
  stands : t.server.Stands config kind
  fit : Fit s t.server.accounts
  fine : ∀ c ∈ t.calls, c.stage.Fine s config

variable {t : Traffic} {i : Nat}

theorem Calm.turn (hs : Sturdy s) (h : Calm s config kind t)
    (hi : t.calls[i]? = some ⟨op, r, stage⟩) :
    ∃ server' stage', t.step s (.turn i) = ⟨server', t.calls.set i ⟨op, r, stage'⟩⟩ ∧
      Moves s config kind t.server op r stage server' stage' := by
  obtain ⟨server', stage', hstep, hmoves⟩ :=
    step_moves (r := r) hs h.stands h.fit (h.fine _ (List.mem_of_getElem? hi))
  refine ⟨server', stage', ?_, hmoves⟩
  unfold Traffic.step Traffic.turn
  simp only [hi]
  rw [hstep]

/-- A turn of no call does nothing. -/
theorem turn_of_none (hi : t.calls[i]? = none) : t.step s (.turn i) = t := by
  unfold Traffic.step Traffic.turn
  simp only [hi]

theorem calm_step (hs : Sturdy s) (h : Calm s config kind t) {e : Event} (he : e.InTime s) :
    Calm s config kind (t.step s e) := by
  cases e with
  | ask op r =>
    refine ⟨h.stands, h.fit, ?_⟩
    intro c hc
    rcases List.mem_append.mp hc with hc | hc
    · exact h.fine c hc
    · obtain rfl := List.mem_singleton.mp hc
      trivial
  | turn i =>
    match hi : t.calls[i]? with
    | none =>
      rw [turn_of_none hi]
      exact h
    | some ⟨op, r, stage⟩ =>
      obtain ⟨server', stage', hturn, hmoves⟩ := h.turn hs hi
      have fine := h.fine _ (List.mem_of_getElem? hi)
      rw [hturn]
      refine ⟨hmoves.stands h.stands, hmoves.fit h.fit fine, ?_⟩
      intro c hc
      rcases List.mem_or_eq_of_mem_set hc with hc | rfl
      · exact h.fine c hc
      · exact hmoves.fine hs h.fit fine
  | clock now second =>
    exact ⟨⟨h.stands.operations, h.stands.standing⟩, ⟨h.fit.readable, he⟩, h.fine⟩

theorem calm_run (hs : Sturdy s) (h : Calm s config kind t) {events : List Event}
    (he : ∀ e ∈ events, e.InTime s) : Calm s config kind (t.run s events) := by
  induction events generalizing t with
  | nil => exact h
  | cons e events ih =>
    exact ih (calm_step hs h (he e (by simp))) fun e' he' => he e' (List.mem_cons_of_mem _ he')

/-- What an event does to a call: the call takes a step if it is the call's turn, and else stays
where it is. -/
theorem Calm.call_step (hs : Sturdy s) (h : Calm s config kind t)
    (hi : t.calls[i]? = some ⟨op, r, stage⟩) (e : Event) :
    ∃ stage', (t.step s e).calls[i]? = some ⟨op, r, stage'⟩ ∧
      (e.isTurn i = false ∧ stage' = stage ∨
        e.isTurn i = true ∧ ∃ server', Moves s config kind t.server op r stage server' stage') := by
  cases e with
  | ask op' r' =>
    refine ⟨stage, ?_, .inl ⟨rfl, rfl⟩⟩
    exact (List.getElem?_append_left (List.getElem?_eq_some_iff.mp hi).1).trans hi
  | turn j =>
    by_cases hj : j = i
    · subst hj
      obtain ⟨server', stage', hturn, hmoves⟩ := h.turn hs hi
      refine ⟨stage', ?_, .inr ⟨decide_eq_true rfl, server', hmoves⟩⟩
      rw [hturn]
      exact List.getElem?_set_self (List.getElem?_eq_some_iff.mp hi).1
    · refine ⟨stage, ?_, .inl ⟨decide_eq_false hj, rfl⟩⟩
      match hc : t.calls[j]? with
      | none => rw [turn_of_none hc, hi]
      | some ⟨op', r', stage'⟩ =>
        obtain ⟨server', stage'', hturn, -⟩ := h.turn hs hc
        rw [hturn]
        exact (List.getElem?_set_ne hj).trans hi
  | clock now second => exact ⟨stage, hi, .inl ⟨rfl, rfl⟩⟩

/-- A call comes nearer to its end with each of its turns, and keeps an answer that it has. -/
theorem Calm.call_run (hs : Sturdy s) (h : Calm s config kind t)
    (hi : t.calls[i]? = some ⟨op, r, stage⟩) {events : List Event}
    (he : ∀ e ∈ events, e.InTime s) :
    ∃ stage', (t.run s events).calls[i]? = some ⟨op, r, stage'⟩ ∧
      stage'.left ≤ stage.left - turnsOf i events ∧ ∀ a, stage.Carries a → stage'.Carries a := by
  induction events generalizing t stage with
  | nil => exact ⟨stage, hi, Nat.le_refl _, fun _ hc => hc⟩
  | cons e events ih =>
    obtain ⟨stage₁, hi₁, hmoved⟩ := h.call_step hs hi e
    obtain ⟨stage₂, hi₂, hleft, hcarries⟩ := ih (calm_step hs h (he e (by simp))) hi₁
      fun e' he' => he e' (List.mem_cons_of_mem _ he')
    refine ⟨stage₂, hi₂, ?_⟩
    unfold turnsOf at hleft ⊢
    rw [List.countP_cons]
    rcases hmoved with ⟨hturn, rfl⟩ | ⟨hturn, server', hmoves⟩
    · rw [hturn]
      exact ⟨hleft, hcarries⟩
    · rw [hturn]
      have nearer := hmoves.left
      refine ⟨?_, fun a hc => hcarries a (hmoves.carries hc)⟩
      simp only [if_true]
      omega

/-! ## The services in production -/

/-- What is so at every moment, however the calls overlap. -/
structure Untroubled (s : Accounts.Setting Users) (config : EndpointConfig) (kind : ServiceKind)
    (t : Traffic) : Prop where
  /-- Every operation has its one breaker, which is closed and has counted no failure. -/
  circuits : t.server.chains.map (fun p => (p.1, p.2.breakers.map (·.circuit))) =
    (Operation.ofService kind).map fun op => (op, [.closed 0])
  /-- A call that is done has an answer of the service's own, or was refused by a limiter. -/
  settled : ∀ c ∈ t.calls, ∀ result, c.stage = .done result → Settled config c.op result
  uncrashed : ∀ c ∈ t.calls, ∀ crash, c.stage ≠ .crashed crash
  /-- Work leads to a rejection exactly if it finds the rule broken that the rejection tells of. -/
  rejected : ∀ (i : Nat) (op : Operation) (r : op.Request) (w : Work op) (e : op.Refusal),
    t.calls[i]? = some ⟨op, r, .working w⟩ →
    ((t.step s (.turn i)).calls[i]? = some ⟨op, r, .leaving (.ok (.error e))⟩ ↔
      Breaks s t.server.accounts op r w e)
  /-- An answer that a call has is the answer that it ends with, whatever else happens. -/
  carried : ∀ (i : Nat) (op : Operation) (r : op.Request) (a : op.Answer) (later : List Event),
    t.calls[i]? = some ⟨op, r, .leaving (.ok a)⟩ → (∀ e ∈ later, e.InTime s) →
    ∃ stage, (t.run s later).calls[i]? = some ⟨op, r, stage⟩ ∧ stage.Carries a
  /-- Six turns are enough for any call. -/
  finishes : ∀ (i : Nat) (op : Operation) (r : op.Request) (stage : Stage op)
    (later : List Event), t.calls[i]? = some ⟨op, r, stage⟩ → (∀ e ∈ later, e.InTime s) →
    6 ≤ turnsOf i later →
    ∃ result, (t.run s later).calls[i]? = some ⟨op, r, .done result⟩
  /-- A call that begins now and has the server to itself ends the same way. -/
  alone : ∀ (op : Operation) (r : op.Request), ∃ result server' notes,
    (call s op r).run t.server = ⟨.ok result, server', notes⟩ ∧
      Leads s op r (t.server, .asked) (server', .done result) ∧ Settled config op result

theorem Calm.untroubled (hs : Sturdy s) (h : Calm s config kind t) :
    Untroubled s config kind t where
  circuits := h.stands.circuits
  settled := by
    intro c hc result hdone
    have fine := h.fine c hc
    rw [hdone] at fine
    exact fine
  uncrashed := by
    intro c hc crash hcrash
    have fine := h.fine c hc
    rw [hcrash] at fine
    exact fine
  rejected := by
    intro i op r w e hi
    obtain ⟨stage', hi', ⟨hturn, -⟩ | ⟨-, server', hmoves⟩⟩ := h.call_step hs hi (.turn i)
    · exact absurd rfl (of_decide_eq_false hturn)
    · rw [hi', ← hmoves.rejects_iff]
      constructor
      · intro hcall
        cases hcall
        rfl
      · intro hstage
        rw [hstage]
  carried := by
    intro i op r a later hi hlater
    obtain ⟨stage', hi', -, hcarries⟩ := h.call_run hs hi hlater
    exact ⟨stage', hi', hcarries a (.inl rfl)⟩
  finishes := by
    intro i op r stage later hi hlater hturns
    obtain ⟨stage', hi', hleft, -⟩ := h.call_run hs hi hlater
    have most := stage.left_le
    have none_left : stage'.left = 0 := by omega
    have fine := (calm_run hs h hlater).fine _ (List.mem_of_getElem? hi')
    obtain ⟨result, rfl⟩ := done_of_left none_left fine
    exact ⟨result, hi'⟩
  alone := fun op r => call_settles hs h.stands h.fit op r

/-- A server starts with any settings, and from then on no call of a client, with whatever input
and in whatever overlap, counts as a failure with a breaker. -/
theorem no_client_opens_a_circuit (hs : Sturdy s) (config : EndpointConfig)
    (hr : config.rate < UInt32.size) (kind : ServiceKind) (now : Moment) (accounts : Accounts Users)
    (hmade : ∀ u ∈ accounts.stored, ∃ n p, s.passwords.hash n p = .ok u.passwordHash)
    (hissues : Issues s accounts.now) :
    ∃ server, start kind config now accounts = .ok server ∧
      ∀ events : List Event, (∀ e ∈ events, e.InTime s) →
        Untroubled s config kind (Traffic.run s ⟨server, []⟩ events) := by
  obtain ⟨server, hstart, hstands, haccounts⟩ := exists_start config hr kind now accounts
  refine ⟨server, hstart, ?_⟩
  intro events hevents
  have fit : Fit s server.accounts := by
    rw [haccounts]
    refine ⟨?_, hissues⟩
    intro u hu
    obtain ⟨n, p, hhash⟩ := hmade u hu
    exact hs.reads n p _ hhash
  have calm : Calm s config kind ⟨server, []⟩ := ⟨hstands, fit, by simp⟩
  exact (calm_run hs calm hevents).untroubled hs

/-! ## A name that is taken -/

open Accounts (plainSetting)

theorem sturdy_plain : Sturdy plainSetting where
  in_memory := rfl
  hashes := fun _ _ => ⟨_, rfl⟩
  reads := fun _ _ _ _ _ => ⟨_, rfl⟩

theorem issues_plain : Issues plainSetting 0 := by
  intro name
  have early : -(1 <<< 63 : Nat) ≤ (60 : Int) ∧ (60 : Int) < (1 <<< 63 : Nat) := by decide
  refine ⟨Token.ofClaims "key" ⟨name, 60⟩, ?_⟩
  change Token.issue ⟨"key", 60⟩ 0 name = _
  unfold Token.issue
  exact if_pos early

/-- Three registrations of one name where one call a second is let in; the last two begin
together. -/
def insistent : List Event :=
  [.ask .register ⟨"ann", "old", "Ann"⟩, .turn 0, .turn 0, .turn 0, .turn 0,
    .clock ⟨1000, 1000000000⟩ 0, .ask .register ⟨"ann", "new", "Ann"⟩,
    .ask .register ⟨"ann", "newer", "Ann"⟩, .turn 1, .turn 1, .turn 2, .turn 1, .turn 1]

theorem a_taken_name_opens_no_circuit :
    Sturdy plainSetting ∧ Issues plainSetting 0 ∧
      ∃ server, start .user ⟨1, 1, 30⟩ ⟨0, 0⟩ { stored := [], now := 0 } = .ok server ∧
        Untroubled plainSetting ⟨1, 1, 30⟩ .user (Traffic.run plainSetting ⟨server, []⟩ insistent) ∧
        ∃ seconds, (Traffic.run plainSetting ⟨server, []⟩ insistent).calls =
          [⟨.register, ⟨"ann", "old", "Ann"⟩, .done (.ok (.ok "0"))⟩,
            ⟨.register, ⟨"ann", "new", "Ann"⟩, .done (.ok (.error .usernameExists))⟩,
            ⟨.register, ⟨"ann", "newer", "Ann"⟩,
              .done (.error (.tooManyRequests "Rate limit exceeded" (some seconds)))⟩] := by
  obtain ⟨server, hstart, untroubled⟩ := no_client_opens_a_circuit sturdy_plain ⟨1, 1, 30⟩
    (by decide) .user ⟨0, 0⟩ { stored := [], now := 0 } (by simp) issues_plain
  refine ⟨sturdy_plain, issues_plain, server, hstart, untroubled insistent ?_, ?_⟩
  · simp [insistent, Event.InTime, issues_plain]
  · cases hstart
    exact ⟨_, rfl⟩

end ServiceMesh.Server
