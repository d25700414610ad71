-- Calls of the operations of a server that are under way at the same time. A call
-- goes in through its layers, does its work step by step, and comes out with the
-- result; turns of other calls may fall between any two of its steps.
import ServiceMesh.Proofs.Account.Ledger
import ServiceMesh.Proofs.Service.Standing

namespace ServiceMesh.Server

open Accounts (RegisterStage ChangeStage)

/-! ## One call in steps -/

/-- How far the work of a call has come. Only the calls that write to a store take several
steps. -/
@[reducible] def Work : Operation → Type
  | .register => RegisterStage
  | .updatePassword => ChangeStage
  | .sum | .concat | .uppercase | .count | .login | .validToken => Unit

def Work.start : (op : Operation) → Work op
  | .register => .hashing
  | .updatePassword => .finding
  | .sum | .concat | .uppercase | .count | .login | .validToken => ()

/-- Work under way, or its result when it is over. -/
abbrev Progress (op : Operation) : Type := Work op ⊕ Except Failure op.Answer

def Work.ofRegister : RegisterStage → Progress .register
  | .ended result => .inr result
  | stage => .inl stage

def Work.ofChange : ChangeStage → Progress .updatePassword
  | .ended result => .inr result
  | stage => .inl stage

/-- The next step of the work. -/
def Work.step (setting : Accounts.Setting Users) : (op : Operation) → op.Request → Work op →
    Act (Server Users) (Progress op)
  | .register, r, stage => do
    return ofRegister (← withAccounts (RegisterStage.step setting r stage))
  | .updatePassword, r, stage => do
    return ofChange (← withAccounts (ChangeStage.step setting r stage))
  | op, r, _ => do return .inr (← perform setting op r)

inductive Stage (op : Operation) where
  | asked
  /-- Let in, behind all layers. -/
  | working (w : Work op)
  /-- The work is over; the result is still to come out through the layers. -/
  | leaving (result : Except Failure op.Answer)
  | done (result : Except Failure op.Answer)
  | crashed (c : Crash)

/-- The server after a step, and where the step leads the call. -/
def Stage.after {α : Type} {op : Operation} (next : α → Stage op)
    (o : Outcome (Server Users) α) : Server Users × Stage op :=
  match o.result with
  | .ok x => (o.state, next x)
  | .error c => (o.state, .crashed c)

/-- Where a call stands that asked to go in. -/
def Stage.entered {op : Operation} : Except Failure Unit → Stage op
  | .ok () => .working (Work.start op)
  | .error f => .done (.error f)

/-- Where a call stands after a step of its work. -/
def Stage.worked {op : Operation} : Progress op → Stage op
  | .inl w => .working w
  | .inr result => .leaving result

/-- The next step of a call. -/
def Stage.step (setting : Accounts.Setting Users) (op : Operation) (r : op.Request)
    (s : Server Users) : Stage op → Server Users × Stage op
  | .asked => after entered ((Guard.enter.on (guard op) (putGuard op)).run s)
  | .working w => after worked ((Work.step setting op r w).run s)
  | .leaving result =>
    after (fun _ => .done result)
      (((Guard.leave (result.map fun _ => ())).on (guard op) (putGuard op)).run s)
  | .done result => (s, .done result)
  | .crashed c => (s, .crashed c)

/-- Steps of a call with no other call in between. -/
def Stage.steps (setting : Accounts.Setting Users) (op : Operation) (r : op.Request) :
    Nat → Server Users × Stage op → Server Users × Stage op
  | 0, p => p
  | n + 1, p => steps setting op r n (p.2.step setting op r p.1)

/-! ## Many calls -/

structure Call where
  op : Operation
  request : op.Request
  stage : Stage op

/-- A server, and the calls so far, those that are done among them. -/
structure Traffic where
  server : Server Users
  calls : List Call

inductive Event where
  /-- A call begins. -/
  | ask (op : Operation) (r : op.Request)
  /-- A call takes its next step. Calls are counted from 0. -/
  | turn (call : Nat)
  /-- The clocks are at this moment, and at this second since 1970. -/
  | clock (now : Moment) (second : Int)

namespace Traffic

def turn (setting : Accounts.Setting Users) (t : Traffic) (i : Nat) : Traffic :=
  match t.calls[i]? with
  | none => t
  | some ⟨op, r, stage⟩ =>
    let (server, stage) := stage.step setting op r t.server
    ⟨server, t.calls.set i ⟨op, r, stage⟩⟩

def step (setting : Accounts.Setting Users) (t : Traffic) : Event → Traffic
  | .ask op r => { t with calls := t.calls ++ [⟨op, r, .asked⟩] }
  | .turn i => t.turn setting i
  | .clock now second => { t with server :=
      { t.server with now, accounts := { t.server.accounts with now := second } } }

def run (setting : Accounts.Setting Users) (t : Traffic) (events : List Event) : Traffic :=
  events.foldl (step setting) t

end Traffic

/-! ## A call that is alone -/

variable {s : Accounts.Setting Users} {op : Operation} {r : op.Request}

theorem steps_add (m n : Nat) (p : Server Users × Stage op) :
    Stage.steps s op r (m + n) p = Stage.steps s op r n (Stage.steps s op r m p) := by
  induction m generalizing p with
  | zero => rw [Nat.zero_add]; rfl
  | succ m ih =>
    rw [Nat.succ_add]
    exact ih _

theorem step_working {server server' : Server Users} {w : Work op} {x : Progress op}
    {notes : List Note} (h : (Work.step s op r w).run server = ⟨.ok x, server', notes⟩) :
    Stage.step s op r server (.working w) = (server', .worked x) := by
  unfold Stage.step
  simp only
  rw [h]
  rfl

/-- Some steps lead from one stage of a call to another. -/
def Leads (s : Accounts.Setting Users) (op : Operation) (r : op.Request)
    (p q : Server Users × Stage op) : Prop :=
  ∃ n, Stage.steps s op r n p = q

theorem Leads.now {server : Server Users} {stage : Stage op} {q : Server Users × Stage op}
    (h : stage.step s op r server = q) : Leads s op r (server, stage) q := ⟨1, h⟩

theorem Leads.trans {p q q' : Server Users × Stage op} (h : Leads s op r p q)
    (h' : Leads s op r q q') : Leads s op r p q' := by
  obtain ⟨m, rfl⟩ := h
  obtain ⟨n, rfl⟩ := h'
  exact ⟨m + n, steps_add m n p⟩

/-- Work that takes one step. -/
theorem leads_perform (server : Server Users) (w : Work op)
    (h : Work.step s op r w = (do return .inr (← perform s op r))) :
    Leads s op r (server, .working w) (Stage.after .leaving ((perform s op r).run server)) := by
  refine .now ?_
  unfold Stage.step
  simp only
  rw [h, Act.run_bind]
  rcases (perform s op r).run server with ⟨c | x, server', notes⟩
  · rfl
  · rfl

theorem run_withAccounts {α : Type} {a : Act (Accounts Users) α} {server : Server Users}
    {x : α} {b : Accounts Users} {notes : List Note}
    (h : a.run server.accounts = ⟨.ok x, b, notes⟩) :
    (withAccounts a).run server = ⟨.ok x, { server with accounts := b }, notes⟩ := Act.run_on h

theorem run_noted {α : Type} {a : Act (Accounts Users) (Accounts.Result α)}
    {notesOf : Accounts.Result α → List Note} {server : Server Users} {x : Accounts.Result α}
    {b : Accounts Users} {notes : List Note} (h : a.run server.accounts = ⟨.ok x, b, notes⟩) :
    (noted a notesOf).run server =
      ⟨.ok x, { server with accounts := b }, notes ++ (notesOf x ++ [])⟩ := by
  unfold noted
  rw [Act.run_bind_ok (run_withAccounts h)]
  rfl

section
variable {server : Server Users} {b c d e : Accounts Users} {notes : List Note}

theorem run_registering {q : Registration} {stage next : RegisterStage}
    (h : (stage.step s q).run server.accounts = ⟨.ok next, b, notes⟩) :
    (Work.step s .register q stage).run server =
      ⟨.ok (Work.ofRegister next), { server with accounts := b }, notes ++ []⟩ :=
  Act.run_bind_ok (run_withAccounts h)

theorem run_changing {q : PasswordChange} {stage next : ChangeStage}
    (h : (stage.step s q).run server.accounts = ⟨.ok next, b, notes⟩) :
    (Work.step s .updatePassword q stage).run server =
      ⟨.ok (Work.ofChange next), { server with accounts := b }, notes ++ []⟩ :=
  Act.run_bind_ok (run_withAccounts h)

theorem step_register {q : Registration} {stage next : RegisterStage}
    (h : (stage.step s q).run server.accounts = ⟨.ok next, b, notes⟩) :
    Stage.step s .register q server (.working stage) =
      ({ server with accounts := b }, .worked (Work.ofRegister next)) :=
  step_working (run_registering h)

theorem step_change {q : PasswordChange} {stage next : ChangeStage}
    (h : (stage.step s q).run server.accounts = ⟨.ok next, b, notes⟩) :
    Stage.step s .updatePassword q server (.working stage) =
      ({ server with accounts := b }, .worked (Work.ofChange next)) :=
  step_working (run_changing h)

/-- Once a registration has ended, a step that is left does nothing. -/
theorem perform_register {q : Registration} {next : RegisterStage}
    {result : Accounts.Result String}
    (h₁ : (RegisterStage.hashing.step s q).run server.accounts = ⟨.ok next, b, []⟩)
    (h₂ : (next.step s q).run b = ⟨.ok (.ended result), c, []⟩) :
    ∃ more, (perform s .register q).run server =
      ⟨.ok result, { server with accounts := c }, more⟩ := by
  have ran : (Accounts.register s q).run server.accounts = ⟨.ok result, c, []⟩ := by
    unfold Accounts.register
    simp only [Act.run_bind, h₁, h₂, Act.run_pure, List.append_nil]
  exact ⟨_, run_noted ran⟩

theorem perform_change {q : PasswordChange} {x y z : ChangeStage} {result : Accounts.Result Unit}
    (h₁ : (ChangeStage.finding.step s q).run server.accounts = ⟨.ok x, b, []⟩)
    (h₂ : (x.step s q).run b = ⟨.ok y, c, []⟩) (h₃ : (y.step s q).run c = ⟨.ok z, d, []⟩)
    (h₄ : (z.step s q).run d = ⟨.ok (.ended result), e, []⟩) :
    ∃ more, (perform s .updatePassword q).run server =
      ⟨.ok result, { server with accounts := e }, more⟩ := by
  have ran : (Accounts.updatePassword s q).run server.accounts = ⟨.ok result, e, []⟩ := by
    unfold Accounts.updatePassword
    simp only [Act.run_bind, h₁, h₂, h₃, h₄, Act.run_pure, List.append_nil]
  exact ⟨_, run_noted ran⟩

/-- The steps of a registration come to what a registration does. -/
theorem leads_register (hs : s.store = Users.store) (q : Registration) (server : Server Users) :
    Leads s .register q (server, .working .hashing)
      (Stage.after .leaving ((perform s .register q).run server)) := by
  -- Two turns at most: the hash, and the user, who is put in unless the name is taken by then.
  obtain ⟨b, next, h₁, turn⟩ := Accounts.turn_of_register hs server.accounts q .hashing
  have first := Leads.now (step_register h₁)
  cases turn with
  | unhashed hh =>
    obtain ⟨more, hperform⟩ := perform_register h₁ rfl
    rw [hperform]
    exact first
  | hashed hh =>
    obtain ⟨c, last, h₂, turn⟩ := Accounts.turn_of_register hs _ q (.inserting _)
    have second := first.trans (.now (step_register h₂))
    cases turn with
    | inserted u hf hu hp =>
      obtain ⟨more, hperform⟩ := perform_register h₁ h₂
      rw [hperform]
      exact second
    | taken hf =>
      obtain ⟨more, hperform⟩ := perform_register h₁ h₂
      rw [hperform]
      exact second

/-- The steps of a change come to what a change does, however early it ends. -/
theorem leads_change (hs : s.store = Users.store) (q : PasswordChange) (server : Server Users) :
    Leads s .updatePassword q (server, .working .finding)
      (Stage.after .leaving ((perform s .updatePassword q).run server)) := by
  obtain ⟨b, x, h₁, turn⟩ := Accounts.turn_of_change hs server.accounts q .finding
  have first := Leads.now (step_change h₁)
  cases turn with
  | gaveUp =>
    -- The steps that are left do nothing, in the call as a whole and here.
    obtain ⟨more, hperform⟩ := perform_change h₁ rfl rfl rfl
    rw [hperform]
    exact first
  | found hf =>
    obtain ⟨c, y, h₂, turn⟩ := Accounts.turn_of_change hs _ q (.verifying _)
    have second := first.trans (.now (step_change h₂))
    cases turn with
    | gaveUp =>
      obtain ⟨more, hperform⟩ := perform_change h₁ h₂ rfl rfl
      rw [hperform]
      exact second
    | verified hv =>
      obtain ⟨d, z, h₃, turn⟩ := Accounts.turn_of_change hs _ q (.hashing _)
      have third := second.trans (.now (step_change h₃))
      cases turn with
      | gaveUp =>
        obtain ⟨more, hperform⟩ := perform_change h₁ h₂ h₃ rfl
        rw [hperform]
        exact third
      | rehashed hh =>
        obtain ⟨e, last, h₄, turn⟩ := Accounts.turn_of_change hs _ q (.replacing _ _)
        have fourth := third.trans (.now (step_change h₄))
        cases turn with
        | gaveUp =>
          obtain ⟨more, hperform⟩ := perform_change h₁ h₂ h₃ h₄
          rw [hperform]
          exact fourth
        | swapped hf hx =>
          obtain ⟨more, hperform⟩ := perform_change h₁ h₂ h₃ h₄
          rw [hperform]
          exact fourth

end

/-- The work of a call that nobody disturbs is what its operation does. -/
theorem leads_work (hs : s.store = Users.store) (op : Operation) (r : op.Request)
    (server : Server Users) : Leads s op r (server, .working (Work.start op))
      (Stage.after .leaving ((perform s op r).run server)) := by
  cases op with
  | register => exact leads_register hs r server
  | updatePassword => exact leads_change hs r server
  | _ =>
    refine leads_perform server _ ?_
    rfl

/-- The steps of a call that nobody disturbs come to what a call does. -/
theorem leads_call (hs : s.store = Users.store) (op : Operation) (r : op.Request)
    (server : Server Users) : Leads s op r (server, .asked)
      (Stage.after .done ((call s op r).run server)) := by
  have first : Leads s op r (server, .asked)
      (Stage.after .entered ((Guard.enter.on (guard op) (putGuard op)).run server)) := .now rfl
  unfold call Act.guarded
  rw [Act.run_bind]
  rcases henter : (Guard.enter.on (guard op) (putGuard op)).run server with
    ⟨c | ⟨f⟩ | _, server₁, _⟩
  · rw [henter] at first
    exact first
  · rw [henter] at first
    exact first
  · rw [henter] at first
    have second := first.trans (leads_work hs op r server₁)
    simp only
    rw [Act.run_bind]
    rcases hwork : (perform s op r).run server₁ with ⟨c | result, server₂, _⟩
    · rw [hwork] at second
      exact second
    · rw [hwork] at second
      have third : Leads s op r (server₂, .leaving result) (Stage.after (fun _ => .done result)
          (((Guard.leave (result.map fun _ => ())).on (guard op) (putGuard op)).run server₂)) :=
        .now rfl
      simp only
      rw [Act.run_bind]
      rcases hleave : ((Guard.leave (result.map fun _ => ())).on (guard op) (putGuard op)).run
        server₂ with ⟨c | _, server₃, _⟩
      · rw [hleave] at third
        exact second.trans third
      · rw [hleave] at third
        exact second.trans third

end ServiceMesh.Server
