-- The two transports of a service side by side: the same request, asked over HTTP and
-- as a remote call, is refused by both or brought to the same endpoint, and what the
-- endpoint answers reads the same in the response and in the reply.
import ServiceMesh.Proofs.Json.Records
import ServiceMesh.Proofs.Service.Replies

namespace ServiceMesh

/-! ## Rejections as responses -/

namespace Rejection

variable {ε : Type} [Rejection ε]

/-- The response that rejects a call, with a text. -/
def rejected (text : String) : Http.Response := .json 400 (.object [("error", .text text)])

theorem rejected_inj {t u : String} (h : rejected t = rejected u) : t = u := by
  unfold rejected Http.Response.json at h
  rw [Http.Response.mk.injEq] at h
  exact @Json.Reader.render_last_inj [] _ _ _ h.2.2

/-- A rejection in known words is never without any. -/
theorem message_ne_nil [LawfulRejection ε] {e : ε} (h : isBusiness e = true) :
    message e ≠ "" := by
  intro hnil
  have hdecode := LawfulRejection.decode_message e h
  rw [hnil] at hdecode
  cases hdecode

theorem response_own {e : ε} (h : isBusiness e = true) : response e = rejected (message e) := by
  unfold response httpStatus rejected
  rw [if_pos h]

end Rejection

namespace Operation

open Rejection (rejected)

/-! ## Replies read as responses -/

/-- The text of the rejection that a reply carries; empty for none. -/
def errOf : (op : Operation) → op.Reply → String
  | .sum, r => r.err
  | .concat, r | .uppercase, r => r.err
  | .count, _ => ""
  | .register, r => r.err
  | .login, r => r.err
  | .updatePassword, err => err
  | .validToken, r => r.err

/-- The fields of a reply that tell a success, as the body of a response. -/
def bodyOf : (op : Operation) → op.Reply → Json
  | .sum, r => .object [("v", .int r.v)]
  | .concat, r | .uppercase, r => .object [("v", .text r.v)]
  | .count, v => .object [("v", .int v)]
  | .register, r => .object [("id", .text r.id)]
  | .login, r => .object [("token", .text r.token), ("expires_in", .int r.expiresIn)]
  | .updatePassword, _ => .object [("updated", .bool true)]
  | .validToken, r => .object [("valid", .bool r.valid), ("username", .text r.username)]

/-- A reply and a response say the same: both tell a success, with the same fields, or both
reject the call, with the same text. -/
def SaysAlike (op : Operation) (reply : op.Reply) (response : Http.Response) : Prop :=
  (op.errOf reply = "" ∧ response = .json 200 (op.bodyOf reply)) ∨
    (op.errOf reply ≠ "" ∧ response = rejected (op.errOf reply))

theorem saysAlike_rejection {ε : Type} [Rejection ε] [LawfulRejection ε] {e : ε}
    (h : Rejection.isBusiness e = true) :
    Rejection.message e ≠ "" ∧ Rejection.response e = rejected (Rejection.message e) :=
  ⟨Rejection.message_ne_nil h, Rejection.response_own h⟩

theorem saysAlike_answer (op : Operation) {a : op.Answer} (h : op.IsOwn a) :
    op.SaysAlike (op.encode a) (op.response a) := by
  cases op with
  | count =>
    cases a with
    | ok v => exact Or.inl ⟨rfl, rfl⟩
    | error e => exact e.elim
  | _ =>
    cases a with
    | ok v => exact Or.inl ⟨rfl, rfl⟩
    | error e => exact Or.inr (saysAlike_rejection h)

theorem SaysAlike.status_iff {op : Operation} {reply : op.Reply} {response : Http.Response}
    (h : op.SaysAlike reply response) : response.status = 200 ↔ op.errOf reply = "" := by
  rcases h with ⟨herr, rfl⟩ | ⟨herr, rfl⟩
  · exact ⟨fun _ => herr, fun _ => rfl⟩
  · constructor
    · intro hstatus
      cases hstatus
    · intro hnil
      exact absurd hnil herr

/-- The fields of a success are the same. -/
theorem SaysAlike.body {op : Operation} {reply : op.Reply} {response : Http.Response}
    (h : op.SaysAlike reply response) (herr : op.errOf reply = "") :
    response = .json 200 (op.bodyOf reply) := by
  rcases h with ⟨-, h⟩ | ⟨hne, -⟩
  · exact h
  · exact absurd herr hne

theorem SaysAlike.rejected_iff {op : Operation} {reply : op.Reply} {response : Http.Response}
    (h : op.SaysAlike reply response) {t : String} (ht : t ≠ "") :
    response = rejected t ↔ op.errOf reply = t := by
  rcases h with ⟨herr, rfl⟩ | ⟨-, rfl⟩
  · rw [herr]
    constructor
    · intro hresponse
      cases congrArg Http.Response.status hresponse
    · intro hnil
      exact absurd hnil.symm ht
  · constructor
    · exact Rejection.rejected_inj
    · intro herr
      rw [herr]

/-! ## Requests -/

/-- What an HTTP request asks of an operation, before any rules: a token in its header, or a
record in its body. -/
def Asks (r : Http.Request) : (op : Operation) → op.Request → Prop
  | .validToken, token => r.bearer? = some token
  | op, q => r.json op.reader = .ok q

/-- What is asked is accepted exactly if it breaks no rule. -/
theorem readRequest_of_asks {op : Operation} {r : Http.Request} {q : op.Request}
    (h : Asks r op q) :
    op.readRequest r = match op.violations q with
      | [] => .inr q
      | vs => .inl ((Failure.invalid vs).response, (Failure.invalid vs).responseNotes) := by
  by_cases hop : op = .validToken
  · subst hop
    have hbearer : r.bearer? = some q := h
    unfold readRequest
    rw [hbearer]
    rfl
  · have hbody : r.json op.reader = .ok q := by
      cases op with
      | validToken => exact absurd rfl hop
      | _ => exact h
    have hread := readRequest_body hop r
    rw [hbody] at hread
    refine hread.trans ?_
    cases op.service <;> rfl

/-! ## Calls -/

/-- Calls of endpoints, in order. -/
abbrev Calls := List ((op : Operation) × op.Request)

/-- Endpoints of which every call is put down. -/
def recorded {σ : Type} (call : (op : Operation) → op.Request → Act σ (Except Failure op.Answer))
    (op : Operation) (q : op.Request) : Act (σ × Calls) (Except Failure op.Answer) := do
  Act.modify fun s => (s.1, s.2 ++ [⟨op, q⟩])
  (call op q).on Prod.fst fun t s => (t, s.2)

/-- A service behind guards: an operation is one call through its guard. -/
def behind {σ : Type} (guard : Operation → σ → Guard) (put : Operation → Guard → σ → σ)
    (service : (op : Operation) → op.Request → Act σ (Except Failure op.Answer))
    (op : Operation) (q : op.Request) : Act σ (Except Failure op.Answer) :=
  Act.guarded (guard op) (put op) (service op q)

section Both

variable {σ : Type} {call : (op : Operation) → op.Request → Act σ (Except Failure op.Answer)}
  {op : Operation} {q : op.Request} {r : Http.Request} {s s' : σ} {notes : List Note}

theorem run_recorded {x : Except Crash (Except Failure op.Answer)}
    (h : (call op q).run s = ⟨x, s', notes⟩) (calls : Calls) :
    (recorded call op q).run (s, calls) = ⟨x, (s', calls ++ [⟨op, q⟩]), notes⟩ := by
  have hon : ((call op q).on Prod.fst fun t (s : σ × Calls) => (t, s.2)).run
      (s, calls ++ [⟨op, q⟩]) = ⟨x, (s', calls ++ [⟨op, q⟩]), notes⟩ := Act.run_on h
  unfold recorded
  rw [Act.run_bind_ok (Act.run_modify _ _), hon]
  rfl

/-- A request that breaks rules is refused before any call. -/
theorem run_refused (hq : Asks r op q) (hv : op.violations q ≠ []) :
    (op.handle call r).run s = ⟨.ok (Failure.invalid (op.violations q)).response, s,
        (Failure.invalid (op.violations q)).responseNotes⟩ ∧
      (op.answerRpc call q).run s = ⟨.ok (.error (Failure.invalid (op.violations q)).status), s,
        []⟩ := by
  have hread := readRequest_of_asks hq
  unfold handle answerRpc
  rw [hread]
  cases hvs : op.violations q with
  | nil => exact absurd hvs hv
  | cons v vs => exact ⟨rfl, rfl⟩

/-- A failure of the endpoint leaves as a response, and as a status. -/
theorem run_failed (hq : Asks r op q) (hv : op.violations q = []) {f : Failure}
    (h : (call op q).run s = ⟨.ok (.error f), s', notes⟩) :
    (op.handle call r).run s = ⟨.ok f.response, s', notes ++ f.responseNotes⟩ ∧
      (op.answerRpc call q).run s = ⟨.ok (.error f.status), s', notes ++ f.statusNotes⟩ := by
  have hread := readRequest_of_asks hq
  rw [hv] at hread
  unfold handle answerRpc
  rw [hread, hv]
  exact ⟨Act.run_bind_ok h, Act.run_bind_ok h⟩

/-- A crash of the endpoint is the end of both. -/
theorem run_crashed (hq : Asks r op q) (hv : op.violations q = []) {c : Crash}
    (h : (call op q).run s = ⟨.error c, s', notes⟩) :
    (op.handle call r).run s = ⟨.error c, s', notes⟩ ∧
      (op.answerRpc call q).run s = ⟨.error c, s', notes⟩ := by
  have hread := readRequest_of_asks hq
  rw [hv] at hread
  unfold handle answerRpc
  rw [hread, hv]
  simp only [Act.run_bind, h, and_self]

end Both

theorem status_response (f : Failure) : f.response.status = f.httpStatus := by
  unfold Failure.response
  cases f.retryAfter? <;> rfl

/-! ## The law -/

/-- What the transports make of one request, asked in the same state of the endpoints. -/
structure Alike {σ : Type} (call : (op : Operation) → op.Request → Act σ (Except Failure op.Answer))
    (op : Operation) (q : op.Request) (s : σ) (web : Outcome (σ × Calls) Http.Response)
    (rpc : Outcome (σ × Calls) (Except Rpc.Status op.Reply)) : Prop where
  /-- They make the same calls, and leave the endpoints in the same state. -/
  same_calls : web.state = rpc.state
  /-- There is no call exactly if the request breaks rules. -/
  refused_iff : web.state.2 = [] ↔ op.violations q ≠ []
  /-- Then both refuse it, with all violations, and everything is as it was. -/
  refused : op.violations q ≠ [] → web.state = (s, []) ∧
    web.result = .ok (Failure.invalid (op.violations q)).response ∧
    (Failure.invalid (op.violations q)).response.status = 422 ∧
    rpc.result = .ok (.error (Failure.invalid (op.violations q)).status) ∧
    (Failure.invalid (op.violations q)).status.code = .invalidArgument
  /-- Otherwise both make one call, of the same endpoint with the same request. -/
  called : op.violations q = [] → web.state = (((call op q).run s).state, [⟨op, q⟩])
  /-- Status 200 is the response exactly if there is a reply without a rejection. -/
  success_iff : ∀ response, web.result = .ok response →
    (response.status = 200 ↔ ∃ reply, rpc.result = .ok (.ok reply) ∧ op.errOf reply = "")
  /-- What the endpoint answers is told by both: a success with the same fields, a rejection
  with the same text. -/
  answered : op.violations q = [] → ∀ a, ((call op q).run s).result = .ok (.ok a) →
    ∃ response reply, web.result = .ok response ∧ rpc.result = .ok (.ok reply) ∧
      (op.errOf reply = "" → response = .json 200 (op.bodyOf reply)) ∧
      ∀ t, t ≠ "" → (response = rejected t ↔ op.errOf reply = t)
  /-- A failure of it is told by both, each in its own terms. -/
  failed : op.violations q = [] → ∀ f, ((call op q).run s).result = .ok (.error f) →
    web.result = .ok f.response ∧ f.response.status = f.httpStatus ∧
    rpc.result = .ok (.error f.status)
  crashed : op.violations q = [] → ∀ c, ((call op q).run s).result = .error c →
    web.result = .error c ∧ rpc.result = .error c

section Law

variable {σ : Type} {call : (op : Operation) → op.Request → Act σ (Except Failure op.Answer)}
  {op : Operation} {q : op.Request} {r : Http.Request} {s s' : σ} {notes : List Note}

/-- No failure is told as a success by either. -/
theorem success_iff_failed (f : Failure) {x : Except Crash (Except Rpc.Status op.Reply)}
    (hx : x = .ok (.error f.status)) :
    f.response.status = 200 ↔ ∃ reply, x = .ok (.ok reply) ∧ op.errOf reply = "" := by
  constructor
  · intro h
    rw [status_response] at h
    cases f <;> cases h
  · rintro ⟨reply, hreply, -⟩
    rw [hx] at hreply
    cases hreply

theorem alike_refused (hq : Asks r op q) (hv : op.violations q ≠ []) :
    Alike call op q s ((op.handle (recorded call) r).run (s, []))
      ((op.answerRpc (recorded call) q).run (s, [])) := by
  rw [(run_refused hq hv).1, (run_refused hq hv).2]
  exact
    { same_calls := rfl
      refused_iff := ⟨fun _ => hv, fun _ => rfl⟩
      refused := fun _ => ⟨rfl, rfl, status_response _, rfl, rfl⟩
      called := fun h => absurd h hv
      success_iff := by
        rintro response ⟨⟩
        exact success_iff_failed _ rfl
      answered := fun h => absurd h hv
      failed := fun h => absurd h hv
      crashed := fun h => absurd h hv }

/-- An accepted request is a matter of how the one call ends. -/
theorem alike_called {web : Outcome (σ × Calls) Http.Response}
    {rpc : Outcome (σ × Calls) (Except Rpc.Status op.Reply)} (hv : op.violations q = [])
    (hweb : web.state = (((call op q).run s).state, [⟨op, q⟩])) (hrpc : rpc.state = web.state)
    (answered : ∀ a, ((call op q).run s).result = .ok (.ok a) →
      ∃ response reply, web.result = .ok response ∧ rpc.result = .ok (.ok reply) ∧
        op.SaysAlike reply response)
    (failed : ∀ f, ((call op q).run s).result = .ok (.error f) →
      web.result = .ok f.response ∧ rpc.result = .ok (.error f.status))
    (crashed : ∀ c, ((call op q).run s).result = .error c →
      web.result = .error c ∧ rpc.result = .error c) : Alike call op q s web rpc where
  same_calls := hrpc.symm
  refused_iff := by simp [hweb, hv]
  refused := fun h => absurd hv h
  called := fun _ => hweb
  success_iff := by
    intro response hresponse
    rcases hend : ((call op q).run s).result with c | f | a
    · rw [(crashed c hend).1] at hresponse
      cases hresponse
    · obtain ⟨htold, hstatus⟩ := failed f hend
      rw [htold] at hresponse
      cases hresponse
      exact success_iff_failed f hstatus
    · obtain ⟨told, reply, htold, hreply, halike⟩ := answered a hend
      rw [htold] at hresponse
      cases hresponse
      rw [halike.status_iff, hreply]
      constructor
      · intro hnil
        exact ⟨reply, rfl, hnil⟩
      · rintro ⟨_, ⟨⟩, hnil⟩
        exact hnil
  answered := by
    intro _ a ha
    obtain ⟨response, reply, hresponse, hreply, halike⟩ := answered a ha
    exact ⟨response, reply, hresponse, hreply, halike.body, fun t => halike.rejected_iff⟩
  failed := by
    intro _ f hf
    obtain ⟨hresponse, hstatus⟩ := failed f hf
    exact ⟨hresponse, status_response f, hstatus⟩
  crashed := fun _ => crashed

/-- Over HTTP and as a remote call, a request comes to the same. -/
theorem both_transports_tell_the_same (guard : Operation → σ → Guard)
    (put : Operation → Guard → σ → σ)
    {service : (op : Operation) → op.Request → Act σ (Except Failure op.Answer)}
    (hown : ∀ op q, Act.Gives (Server.OwnAnswer op) (service op q)) (hq : Asks r op q) (s : σ) :
    Alike (behind guard put service) op q s
      ((op.handle (recorded (behind guard put service)) r).run (s, []))
      ((op.answerRpc (recorded (behind guard put service)) q).run (s, [])) := by
  by_cases hv : op.violations q = []
  · have hgives : Act.Gives (Server.OwnAnswer op) (behind guard put service op q) :=
      Act.gives_guarded (Server.ownAnswer_failure op) (hown op q) _ _
    rcases hcall : (behind guard put service op q).run s with ⟨c | f | a, s', notes⟩
    · obtain ⟨hweb, hrpc⟩ := run_crashed hq hv (run_recorded hcall [])
      rw [hweb, hrpc]
      refine alike_called hv ?_ rfl ?_ ?_ ?_ <;> rw [hcall]
      · rfl
      · rintro a ⟨⟩
      · rintro f ⟨⟩
      · rintro c ⟨⟩
        exact ⟨rfl, rfl⟩
    · obtain ⟨hweb, hrpc⟩ := run_failed hq hv (run_recorded hcall [])
      rw [hweb, hrpc]
      refine alike_called hv ?_ rfl ?_ ?_ ?_ <;> rw [hcall]
      · rfl
      · rintro a ⟨⟩
      · rintro f ⟨⟩
        exact ⟨rfl, rfl⟩
      · rintro c ⟨⟩
    · have hread := readRequest_of_asks hq
      rw [hv] at hread
      rw [run_handle hread (run_recorded hcall []), run_answerRpc hv (run_recorded hcall [])]
      refine alike_called hv ?_ rfl ?_ ?_ ?_ <;> rw [hcall]
      · rfl
      · rintro a ⟨⟩
        exact ⟨_, _, rfl, rfl, saysAlike_answer op (hgives s (.ok a) s' notes hcall a rfl)⟩
      · rintro f ⟨⟩
      · rintro c ⟨⟩
  · exact alike_refused hq hv

/-- The endpoints of a server are its service behind its guards. -/
theorem server_call (setting : Accounts.Setting σ) :
    Server.call setting = behind Server.guard Server.putGuard (Server.perform setting) := rfl

/-- Accounts in memory, with real hashes and tokens. -/
def inMemory : Accounts.Setting Users := ⟨Users.store, .argon2id, .signed ⟨"key", 60⟩, toString⟩

/-- A server for them without any users yet. -/
def vacant : Server Users := ⟨.user, [], ⟨0, 0⟩, { stored := [], now := 0 }⟩

/-- Ann registers, and gives no nickname. -/
def registering : Http.Request where
  method := "POST"
  path := "/user/v1/register"
  headers := [("content-type", "application/json")]
  body := "\x7b\"username\":\"ann\",\"password\":\"red\"\x7d".toUTF8.toList

/-- As a remote call, with an empty nickname, it comes to the same. -/
theorem a_nickname_may_be_left_out :
    Asks registering .register ⟨"ann", "red", ""⟩ ∧
      (∀ op q, Act.Gives (Server.OwnAnswer op) (Server.perform inMemory op q)) ∧
      Alike (Server.call inMemory) .register ⟨"ann", "red", ""⟩ vacant
        ((register.handle (recorded (Server.call inMemory)) registering).run (vacant, []))
        ((register.answerRpc (recorded (Server.call inMemory)) ⟨"ann", "red", ""⟩).run
          (vacant, [])) := by
  have hread : (registering.json (reader .register)).toOption = some ⟨"ann", "red", ""⟩ := by
    decide +kernel
  have hasks : Asks registering .register ⟨"ann", "red", ""⟩ := by
    unfold Asks
    cases hjson : registering.json (reader .register) <;> rw [hjson] at hread <;> cases hread
    exact hjson
  rw [server_call]
  exact ⟨hasks, Server.perform_own,
    both_transports_tell_the_same _ _ Server.perform_own hasks vacant⟩

end Law

end Operation

end ServiceMesh
