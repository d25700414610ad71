-- The answers of the services as they travel: what a service answers of itself,
-- the reply that carries it, and the answer that the reply stands for.
import ServiceMesh.Service.HttpApi
import ServiceMesh.Service.RpcApi

namespace ServiceMesh

/-! ## Rejections as words -/

/-- A kind of rejection whose own words stand for it wherever they are read. -/
class LawfulRejection (ε : Type) [Rejection ε] : Prop where
  decode_message : ∀ e : ε, Rejection.isBusiness e = true →
    Rejection.decode (Rejection.message e) = some e

instance : LawfulRejection AddRejection where
  decode_message := by
    intro e h
    cases e with
    | twoZeroes => decide
    | overflow => decide
    | tooLong => decide
    | remote text => cases h

instance : LawfulRejection TextRejection where
  decode_message := by
    intro e h
    cases e with
    | empty => decide
    | remote text => cases h

instance : LawfulRejection UserRejection where
  decode_message := by
    intro e h
    cases e with
    | usernameExists => decide
    | notFound => decide
    | wrongPassword => decide
    | mismatch => decide
    | invalidToken => decide
    | remote text => cases h

namespace Rejection

variable {ε α : Type} [Rejection ε]

/-- An answer without a rejection, or with one that is not the words of another process. -/
def IsOwn : Except ε α → Prop
  | .ok _ => True
  | .error e => isBusiness e = true

end Rejection

namespace Operation

variable {ε α : Type} [Rejection ε]

theorem answerOf_nothing (v : α) : (answerOf "" v : Except ε α) = .ok v := rfl

theorem answerOf_message [LawfulRejection ε] (e : ε) (h : Rejection.isBusiness e = true) (v : α) :
    answerOf (Rejection.message e) v = .error e := by
  unfold answerOf
  rw [LawfulRejection.decode_message e h]

/-! ## Replies -/

/-- An answer such as the services give of themselves. -/
def IsOwn : (op : Operation) → op.Answer → Prop
  | .sum, a | .concat, a => Rejection.IsOwn a
  | .uppercase, a => Rejection.IsOwn a
  | .count, _ => True
  | .register, a | .validToken, a => Rejection.IsOwn a
  | .login, a => Rejection.IsOwn a
  | .updatePassword, a => Rejection.IsOwn a

/-- A reply stands for the very answer that was put into it. -/
theorem decode_encode (op : Operation) (a : op.Answer) (h : op.IsOwn a) :
    op.decode (op.encode a) = a := by
  cases op with
  | sum =>
    cases a with
    | ok v => exact answerOf_nothing v
    | error e => exact answerOf_message e h 0
  | concat =>
    cases a with
    | ok v => exact answerOf_nothing v
    | error e => exact answerOf_message e h ""
  | uppercase =>
    cases a with
    | ok v => exact answerOf_nothing v
    | error e => exact answerOf_message e h ""
  | count =>
    cases a with
    | ok v => rfl
    | error e => exact e.elim
  | register =>
    cases a with
    | ok id => exact answerOf_nothing id
    | error e => exact answerOf_message e h ""
  | login =>
    cases a with
    | ok t => exact answerOf_nothing t
    | error e => exact answerOf_message e h _
  | updatePassword =>
    cases a with
    | ok v => exact answerOf_nothing v
    | error e => exact answerOf_message e h ()
  | validToken =>
    cases a with
    | ok username => rfl
    | error e =>
      have rejected : (answerOf (Rejection.message e) "" : Except UserRejection String) =
          .error e := answerOf_message e h ""
      unfold encode decode
      simp only [rejected]

/-! ## Requests -/

/-- Every request but one for a token is read from its body, and then its rules are asked. -/
theorem readRequest_body {op : Operation} (h : op ≠ .validToken) (r : Http.Request) :
    op.readRequest r = match r.json op.reader, op.service with
      | .error fault, .user => .inl (fault.failure.response, fault.failure.responseNotes)
      | .error fault, _ => .inl (fault.response, [])
      | .ok request, _ =>
        match op.violations request with
        | [] => .inr request
        | vs => .inl ((Failure.invalid vs).response, (Failure.invalid vs).responseNotes) := by
  cases op with
  | validToken => exact absurd rfl h
  | _ => rfl

/-- Whatever request is accepted keeps the rules. -/
theorem violations_of_readRequest {op : Operation} {r : Http.Request} {q : op.Request}
    (h : op.readRequest r = .inr q) : op.violations q = [] := by
  by_cases hop : op = .validToken
  · subst hop
    rfl
  · rw [readRequest_body hop] at h
    generalize r.json op.reader = body at h
    cases body with
    | error fault => cases hs : op.service <;> rw [hs] at h <;> cases h
    | ok request =>
      cases hv : op.violations request with
      | nil =>
        simp only [hv, Sum.inr.injEq] at h
        rw [← h]
        exact hv
      | cons v vs =>
        simp only [hv] at h
        cases h

/-! ## The backend -/

section Backend

variable {σ : Type} {call : (op : Operation) → op.Request → Act σ (Except Failure op.Answer)}
  {op : Operation} {q : op.Request} {s s' : σ} {notes : List Note} {a : op.Answer}

/-- A backend puts the answer of its endpoint into the reply. -/
theorem run_answerRpc (hv : op.violations q = [])
    (h : (call op q).run s = ⟨.ok (.ok a), s', notes⟩) :
    (op.answerRpc call q).run s = ⟨.ok (.ok (op.encode a)), s', notes ++ []⟩ := by
  unfold answerRpc
  rw [hv]
  exact Act.run_bind_ok h

/-- Over HTTP the answer of an endpoint is told as its response. -/
theorem run_handle {r : Http.Request} (hq : op.readRequest r = .inr q)
    (h : (call op q).run s = ⟨.ok (.ok a), s', notes⟩) :
    (op.handle call r).run s = ⟨.ok (op.response a), s', notes ++ op.responseNotes a⟩ := by
  unfold handle
  rw [hq]
  exact Act.run_bind_ok h

end Backend

end Operation

/-! ## What the services answer of themselves -/

namespace Act

variable {σ τ α β : Type}

/-- Whatever an act gives has a property. -/
def Gives (P : α → Prop) (a : Act σ α) : Prop :=
  ∀ s x s' notes, a.run s = ⟨.ok x, s', notes⟩ → P x

theorem gives_pure {P : α → Prop} {x : α} (h : P x) : Gives P (pure x : Act σ α) := by
  intro s y s' notes hrun
  cases hrun
  exact h

theorem gives_noting {P : α → Prop} {p : α × List Note} (h : P p.1) :
    Gives P (noting p : Act σ α) := by
  intro s y s' notes hrun
  cases hrun
  exact h

theorem gives_crash {P : α → Prop} (c : Crash) : Gives P (crash c : Act σ α) := by
  intro s y s' notes hrun
  cases hrun

theorem gives_bind {P : α → Prop} {Q : β → Prop} {a : Act σ α} {f : α → Act σ β}
    (ha : Gives P a) (hf : ∀ x, P x → Gives Q (f x)) : Gives Q (a >>= f) := by
  intro s y s' notes hrun
  rw [run_bind] at hrun
  match hs : a.run s with
  | ⟨.ok x, s₁, before⟩ =>
    simp only [hs, Outcome.mk.injEq] at hrun
    exact hf x (ha s x s₁ before hs) s₁ y s' _ (by rw [← hrun.1, ← hrun.2.1])
  | ⟨.error c, s₁, before⟩ =>
    simp only [hs, Outcome.mk.injEq] at hrun
    cases hrun.1

theorem gives_any (a : Act σ α) : Gives (fun _ => True) a := by
  intro s x s' notes _
  trivial

/-- If only what follows matters. -/
theorem gives_then {Q : β → Prop} {a : Act σ α} {f : α → Act σ β} (hf : ∀ x, Gives Q (f x)) :
    Gives Q (a >>= f) :=
  gives_bind (gives_any a) fun x _ => hf x

theorem gives_on {P : α → Prop} {a : Act τ α} (h : Gives P a) (part : σ → τ) (put : τ → σ → σ) :
    Gives P (a.on part put) := by
  intro s x s' notes hrun
  match hs : a.run (part s) with
  | ⟨y, t, noted⟩ =>
    rw [run_on hs] at hrun
    cases hrun
    exact h (part s) x t notes hs

/-- A guard around some work lets through what the work gives, or fails of itself. -/
theorem gives_guarded {P : Except Failure α → Prop} (hfail : ∀ f, P (.error f))
    {work : Act σ (Except Failure α)} (h : Gives P work) (part : σ → Guard)
    (put : Guard → σ → σ) : Gives P (guarded part put work) := by
  unfold guarded
  refine gives_then ?_
  intro entered
  cases entered with
  | error f => exact gives_pure (hfail f)
  | ok _ =>
    refine gives_bind h fun result hresult => ?_
    exact gives_then fun _ => gives_pure hresult

end Act

namespace Accounts

variable {σ α : Type} {setting : Setting σ}

/-- A call of the accounts fails, or answers of itself. -/
def OwnResult (r : Result α) : Prop := ∀ a, r = .ok a → Rejection.IsOwn a

theorem ownResult_failure (f : Failure) : OwnResult (.error f : Result α) := by
  intro a h
  cases h

theorem ownResult_value (x : α) : OwnResult (.ok (.ok x)) := by
  intro a h
  cases h
  trivial

theorem ownResult_rejection {e : UserRejection} (h : Rejection.isBusiness e = true) :
    OwnResult (.ok (.error e) : Result α) := by
  intro a ha
  cases ha
  exact h

def RegisterStage.IsOwn : RegisterStage → Prop
  | .ended result => OwnResult result
  | _ => True

def ChangeStage.IsOwn : ChangeStage → Prop
  | .ended result => OwnResult result
  | _ => True

theorem register_step_own (r : Registration) {stage : RegisterStage} (h : stage.IsOwn) :
    Act.Gives RegisterStage.IsOwn (stage.step setting r) := by
  unfold RegisterStage.step
  cases stage with
  | hashing =>
    refine Act.gives_then ?_
    intro hashed
    cases hashed with
    | ok hash => exact Act.gives_pure trivial
    | error f => exact Act.gives_pure (ownResult_failure f)
  | inserting hash =>
    refine Act.gives_then fun s => Act.gives_then fun _ => Act.gives_then ?_
    intro inserted
    match inserted with
    | .ok () => exact Act.gives_pure (ownResult_value _)
    | .error .taken => exact Act.gives_pure (ownResult_rejection rfl)
    | .error (.failed f) => exact Act.gives_pure (ownResult_failure f)
  | ended result => exact Act.gives_pure h

theorem change_step_own (r : PasswordChange) {stage : ChangeStage} (h : stage.IsOwn) :
    Act.Gives ChangeStage.IsOwn (stage.step setting r) := by
  unfold ChangeStage.step
  cases stage with
  | finding =>
    refine Act.gives_then ?_
    intro found
    match found with
    | .ok (some user) => exact Act.gives_pure trivial
    | .ok none => exact Act.gives_pure (ownResult_rejection rfl)
    | .error f => exact Act.gives_pure (ownResult_failure f)
  | verifying user =>
    simp only
    split
    · exact Act.gives_pure trivial
    · exact Act.gives_pure (ownResult_rejection rfl)
    · exact Act.gives_pure (ownResult_failure _)
  | hashing user =>
    refine Act.gives_then ?_
    intro hashed
    cases hashed with
    | ok hash => exact Act.gives_pure trivial
    | error f => exact Act.gives_pure (ownResult_failure f)
  | replacing user hash =>
    refine Act.gives_then ?_
    intro replaced
    match replaced with
    | .ok (some _) => exact Act.gives_pure (ownResult_value ())
    | .ok none => exact Act.gives_pure (ownResult_rejection rfl)
    | .error f => exact Act.gives_pure (ownResult_failure f)
  | ended result => exact Act.gives_pure h

theorem register_own (r : Registration) : Act.Gives OwnResult (register setting r) := by
  unfold register
  refine Act.gives_bind (register_step_own r trivial) fun first hfirst =>
    Act.gives_bind (register_step_own r hfirst) fun second hsecond => ?_
  cases second with
  | ended result => exact Act.gives_pure hsecond
  | _ => exact Act.gives_pure (ownResult_failure _)

theorem updatePassword_own (r : PasswordChange) :
    Act.Gives OwnResult (updatePassword setting r) := by
  unfold updatePassword
  refine Act.gives_bind (change_step_own r trivial) fun first hfirst =>
    Act.gives_bind (change_step_own r hfirst) fun second hsecond =>
    Act.gives_bind (change_step_own r hsecond) fun third hthird =>
    Act.gives_bind (change_step_own r hthird) fun fourth hfourth => ?_
  cases fourth with
  | ended result => exact Act.gives_pure hfourth
  | _ => exact Act.gives_pure (ownResult_failure _)

theorem login_own (r : Credentials) : Act.Gives OwnResult (login setting r) := by
  unfold login
  refine Act.gives_then ?_
  intro found
  match found with
  | .error f => exact Act.gives_pure (ownResult_failure f)
  | .ok none => exact Act.gives_pure (ownResult_rejection rfl)
  | .ok (some user) =>
    simp only
    split
    · exact Act.gives_pure (ownResult_failure _)
    · exact Act.gives_pure (ownResult_rejection rfl)
    · refine Act.gives_then ?_
      intro s
      split
      · exact Act.gives_crash _
      · exact Act.gives_then fun _ => Act.gives_pure (ownResult_value _)

theorem validToken_own (token : String) : Act.Gives OwnResult (validToken setting token) := by
  unfold validToken
  refine Act.gives_then ?_
  intro s
  split
  · exact Act.gives_pure (ownResult_value _)
  · exact Act.gives_then fun _ => Act.gives_pure (ownResult_rejection rfl)

end Accounts

namespace Server

variable {σ : Type} {setting : Accounts.Setting σ}

/-- The endpoint of an operation fails, or answers of itself. -/
def OwnAnswer (op : Operation) (r : Except Failure op.Answer) : Prop := ∀ a, r = .ok a → op.IsOwn a

theorem ownAnswer_failure (op : Operation) (f : Failure) : OwnAnswer op (.error f) := by
  intro a h
  cases h

theorem noted_own {α : Type} {a : Act (Accounts σ) (Accounts.Result α)}
    {notes : Accounts.Result α → List Note} (h : Act.Gives Accounts.OwnResult a) :
    Act.Gives Accounts.OwnResult (noted a notes) := by
  unfold noted withAccounts
  refine Act.gives_bind (Act.gives_on h _ _) fun result hresult => ?_
  exact Act.gives_then fun _ => Act.gives_pure hresult

theorem perform_own (op : Operation) (r : op.Request) :
    Act.Gives (OwnAnswer op) (perform setting op r) := by
  cases op with
  | sum =>
    refine Act.gives_noting ?_
    intro a h
    cases h
    change Rejection.IsOwn (Adding.sum r)
    unfold Adding.sum
    split
    · rfl
    · split
      · rfl
      · trivial
  | concat =>
    refine Act.gives_noting ?_
    intro a h
    cases h
    change Rejection.IsOwn (Adding.concat r)
    unfold Adding.concat
    split
    · rfl
    · trivial
  | uppercase =>
    refine Act.gives_noting ?_
    intro a h
    cases h
    change Rejection.IsOwn (Texts.uppercase r)
    unfold Texts.uppercase
    split
    · rfl
    · trivial
  | count =>
    refine Act.gives_noting ?_
    intro a h
    trivial
  | register => exact noted_own (Accounts.register_own r)
  | login => exact noted_own (Accounts.login_own r)
  | updatePassword => exact noted_own (Accounts.updatePassword_own r)
  | validToken => exact noted_own (Accounts.validToken_own r)

/-- Whatever the endpoint of a service answers, it answers of itself. -/
theorem call_own (op : Operation) (r : op.Request) :
    Act.Gives (OwnAnswer op) (call setting op r) := by
  unfold call
  exact Act.gives_guarded (ownAnswer_failure op) (perform_own op r) _ _

end Server

end ServiceMesh
