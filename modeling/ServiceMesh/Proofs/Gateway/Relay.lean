-- An answer on its way through a gateway: the backend puts it into a reply, the
-- gateway reads the reply, and the client is told what the backend would have
-- told it itself.
import Mathlib
import ServiceMesh.Gateway.Server
import ServiceMesh.Proofs.Discovery.Stages
import ServiceMesh.Proofs.Service.Replies

namespace ServiceMesh

/-! ## The attempts of a call -/

namespace Retry

variable {σ κ ρ : Type}

/-- Where a call that begins at an instant stands when its first attempts have failed: how many
they are, the state, the progress, and what was noted. It has a deadline. -/
inductive Failed (r : Retry) (now : Instant) (pick : Act σ (Except Failure κ))
    (call : κ → Nat → Act σ (Timed ρ)) (s₀ : σ) : Nat → σ → Progress → List Note → Prop where
  | none : r.Meets now → Failed r now pick call s₀ 0 s₀ {} []
  | again {k : Nat} {s s' : σ} {p p' : Progress} {notes more : List Note} :
    Failed r now pick call s₀ k s p notes →
    (r.attempt pick call p).run s = ⟨.ok (.again p'), s', more⟩ →
    Failed r now pick call s₀ (k + 1) s' p' (notes ++ more)

variable {r : Retry} {now : Instant} {pick : Act σ (Except Failure κ)}
  {call : κ → Nat → Act σ (Timed ρ)}

theorem go_again {s s' : σ} {p p' : Progress} {notes : List Note}
    (h : (r.attempt pick call p).run s = ⟨.ok (.again p'), s', notes⟩) (left : Nat) :
    (r.go pick call (left + 1) p).run s =
      ⟨((r.go pick call left p').run s').result, ((r.go pick call left p').run s').state,
        notes ++ ((r.go pick call left p').run s').notes⟩ := by
  rw [go, Act.run_bind_ok h]

theorem go_done {s s' : σ} {p : Progress} {notes : List Note} {spent : Nat}
    {result : Except Failure ρ}
    (h : (r.attempt pick call p).run s = ⟨.ok (.done spent result), s', notes⟩) (left : Nat) :
    (r.go pick call (left + 1) p).run s = ⟨.ok (spent, result), s', notes ++ []⟩ := by
  rw [go, Act.run_bind_ok h]
  rfl

/-- After failed attempts a call goes on with the attempts that are left. -/
theorem run_of_failed {s₀ s : σ} {k : Nat} {p : Progress} {notes : List Note}
    (h : Failed r now pick call s₀ k s p notes) (hk : k ≤ r.attempts) :
    (r.run now pick call).run s₀ =
      ⟨((r.go pick call (r.attempts - k) p).run s).result,
        ((r.go pick call (r.attempts - k) p).run s).state,
        notes ++ ((r.go pick call (r.attempts - k) p).run s).notes⟩ := by
  induction h with
  | none hmeets => rw [run_of_meets hmeets]; rfl
  | @again k s s' p p' notes more _ hagain ih =>
    have left : r.attempts - k = r.attempts - (k + 1) + 1 := by omega
    rw [ih (Nat.le_of_succ_le hk), left, go_again hagain]
    simp only [List.append_assoc]

/-- A call ends with the first attempt that is not followed by another one. -/
theorem run_done {s₀ s s' : σ} {k : Nat} {p : Progress} {notes more : List Note} {spent : Nat}
    {result : Except Failure ρ} (h : Failed r now pick call s₀ k s p notes) (hk : k < r.attempts)
    (hdone : (r.attempt pick call p).run s = ⟨.ok (.done spent result), s', more⟩) :
    (r.run now pick call).run s₀ = ⟨.ok (spent, result), s', notes ++ more⟩ := by
  have left : r.attempts - k = r.attempts - (k + 1) + 1 := by omega
  rw [run_of_failed h (Nat.le_of_lt hk), left, go_done hdone]
  simp only [List.append_nil]

end Retry

/-! ## Out of the layers -/

/-- A call that succeeds comes out of every layer. -/
theorem Layer.leave_ok (now : Moment) (l : Layer) :
    ∃ l' notes, l.leave now (.ok ()) = (.ok l', notes) := by
  cases l with
  | breaker b =>
    obtain ⟨name, settings, circuit⟩ := b
    cases circuit <;> exact ⟨_, _, rfl⟩
  | _ => exact ⟨_, _, rfl⟩

theorem Chain.leave_ok (now : Moment) (c : Chain) : (c.leave now (.ok ())).crash = none := by
  induction c with
  | nil => rfl
  | cons l rest ih =>
    obtain ⟨l', notes, hl⟩ := l.leave_ok now
    unfold Chain.leave Chain.leaveOne
    simp only [ih, Option.isNone_none, if_true, hl]

theorem Guard.run_leave_ok (g : Guard) :
    ∃ g' notes, (Guard.leave (.ok ())).run g = ⟨.ok (), g', notes⟩ := by
  have hleave := Guard.run_leave (g := g) (r := .ok ()) rfl
  unfold Guard.passed at hleave
  rw [Chain.leave_ok] at hleave
  exact ⟨_, _, hleave⟩

namespace Link

variable {rules : GatewayRules} {remote : Remote} {op : Operation} {q : op.Request}

/-! ## One attempt through a link -/

/-- What every attempt begins with: the endpoints are brought up to date, and one is picked. -/
def pick (rules : GatewayRules) (op : Operation) : Act Link (Except Failure Nat) :=
  atBackends (Backends.pick (dial rules.endpoint op))

/-- The attempt that comes next gets as far as an instance: its endpoint is picked, and the
layers around it let the call in. -/
def Reaches (rules : GatewayRules) (op : Operation) (l : Link) (i : Instance) : Prop :=
  ∃ n picked entered chain notes more,
    (pick rules op).run l = ⟨.ok (.ok n), picked, notes⟩ ∧
    (Guard.enter.on (guard n) (putGuard n)).run picked = ⟨.ok (.ok ()), entered, more⟩ ∧
    entered.dialled[n]? = some ⟨i, chain⟩

/-- An endpoint whose instance replies in time gives the answer that the reply stands for. -/
theorem run_call {n remaining took : Nat} {picked entered : Link} {i : Instance} {chain : Chain}
    {notes : List Note} {reply : op.Reply}
    (henter : (Guard.enter.on (guard n) (putGuard n)).run picked =
      ⟨.ok (.ok ()), entered, notes⟩)
    (hdialled : entered.dialled[n]? = some ⟨i, chain⟩)
    (hremote : remote i op q = some (took, .ok reply)) (hin : Span.ofMillis took ≤ remaining) :
    ∃ l' more, (call remote op q n remaining).run picked =
      ⟨.ok (.ended (Span.ofMillis took) (.ok (op.decode reply))), l', more⟩ := by
  let passed : Link :=
    { entered with now := { entered.now with millis := entered.now.millis + took } }
  have hadvance : (advance took).run entered = ⟨.ok (), passed, []⟩ := rfl
  obtain ⟨g, out, hleave⟩ := (guard n passed).run_leave_ok
  have hout : ((Guard.leave (.ok ())).on (guard n) (putGuard n)).run passed =
      ⟨.ok (), putGuard n g passed, out⟩ := Act.run_on hleave
  refine ⟨putGuard n g passed, notes ++ ([] ++ ([] ++ (out ++ []))), ?_⟩
  unfold call
  rw [Act.run_bind_ok henter]
  simp only
  rw [Act.run_bind_ok (Act.run_get entered)]
  simp only [hdialled, Option.bind_some, hremote, if_pos hin]
  rw [Act.run_bind_ok hadvance]
  simp only [Except.mapError, Except.map]
  rw [Act.run_bind_ok hout]
  rfl

/-- An attempt that gets as far as an instance ends the call with whatever its reply stands for,
a rejection as well as a value. -/
theorem run_attempt {l : Link} {p : Retry.Progress} {i : Instance} {took : Nat} {reply : op.Reply}
    (hreach : Reaches rules op l i) (hremote : remote i op q = some (took, .ok reply))
    (hin : Span.ofMillis took ≤ rules.retry.timeout - p.spent) :
    ∃ l' notes, (rules.retry.attempt (pick rules op) (call remote op q) p).run l =
      ⟨.ok (.done (p.spent + Span.ofMillis took) (.ok (op.decode reply))), l', notes⟩ := by
  obtain ⟨n, picked, entered, chain, before, inward, hpick, henter, hdialled⟩ := hreach
  obtain ⟨l', after, hcall⟩ := run_call henter hdialled hremote hin
  refine ⟨l', before ++ (after ++ []), ?_⟩
  unfold Retry.attempt
  rw [Act.run_bind_ok hpick]
  simp only
  rw [Act.run_bind_ok hcall]
  rfl

/-! ## A whole call -/

/-- A passage through the layers around a whole call moves the clock of limiters on. -/
def passage (l : Link) : Link := { l with now := { l.now with nanos := l.now.nanos + 1 } }

theorem run_enter (op : Operation) (l : Link) :
    (Guard.enter.on (outer op) fun g l => { l with now := g.now }).run l =
      ⟨.ok (.ok ()), l.passage, []⟩ := rfl

theorem run_leave (op : Operation) (l : Link) :
    ∃ notes, ((Guard.leave (.ok ())).on (outer op) fun g l => { l with now := g.now }).run l =
      ⟨.ok (), l.passage, notes⟩ := ⟨_, rfl⟩

theorem run_tries {l l' : Link} {spent : Nat} {a : op.Answer} {notes : List Note}
    (h : (rules.retry.run l.now.millis (pick rules op) (call remote op q)).run l =
      ⟨.ok (spent, .ok a), l', notes⟩) :
    (tries rules remote op q).run l = ⟨.ok (.ok a), l', [] ++ (notes ++ [])⟩ := by
  unfold pick at h
  unfold tries
  rw [Act.run_bind_ok (Act.run_get l)]
  simp only
  rw [Act.run_bind_ok h]
  rfl

/-- A whole call comes to what its attempts come to. -/
theorem run_run {l l' : Link} {spent : Nat} {a : op.Answer} {notes : List Note}
    (h : (rules.retry.run l.passage.now.millis (pick rules op) (call remote op q)).run l.passage =
      ⟨.ok (spent, .ok a), l', notes⟩) :
    ∃ more, (Link.run rules remote op q).run l = ⟨.ok (.ok a), l'.passage, more⟩ := by
  obtain ⟨out, hleave⟩ := run_leave op l'
  exact ⟨_, Act.run_guarded (r := .ok a) (run_enter op l) (run_tries h) hleave⟩

end Link

/-! ## The laws of a relayed call -/

namespace Gateway

/-- The link of an operation as a call finds it, within its outer layers. -/
def entered (g : Gateway) (op : Operation) : Link := Link.passage { g.link op with now := g.now }

/-- A call of a gateway gets to a backend: at a link and a progress that its first attempts, all
failed, have led to, the next attempt reaches an instance that replies in time, after some
milliseconds. -/
structure Attains (g : Gateway) (remote : Remote) (op : Operation) (q : op.Request)
    (reply : Except Rpc.Status op.Reply) (l : Link) (p : Retry.Progress) (took : Nat) : Prop where
  in_turn : ∃ k notes, k < g.rules.retry.attempts ∧
    Retry.Failed g.rules.retry (g.entered op).now.millis (Link.pick g.rules op)
      (Link.call remote op q) (g.entered op) k l p notes
  reached : ∃ i, Link.Reaches g.rules op l i ∧ remote i op q = some (took, reply)
  in_time : Span.ofMillis took ≤ g.rules.retry.timeout - p.spent

variable {g : Gateway} {remote : Remote} {op : Operation} {q : op.Request} {l : Link}
  {p : Retry.Progress} {took : Nat} {reply : op.Reply}

/-- The attempt that gets to a backend is the last one. -/
theorem Attains.run_last (h : g.Attains remote op q (.ok reply) l p took) :
    ∃ l' notes more,
      (g.rules.retry.attempt (Link.pick g.rules op) (Link.call remote op q) p).run l =
        ⟨.ok (.done (p.spent + Span.ofMillis took) (.ok (op.decode reply))), l', notes⟩ ∧
      (Link.run g.rules remote op q).run { g.link op with now := g.now } =
        ⟨.ok (.ok (op.decode reply)), l'.passage, more⟩ := by
  obtain ⟨k, failures, hk, hfailed⟩ := h.in_turn
  obtain ⟨i, hreach, hremote⟩ := h.reached
  obtain ⟨l', notes, hattempt⟩ := Link.run_attempt hreach hremote h.in_time
  obtain ⟨more, hrun⟩ := Link.run_run (Retry.run_done hfailed hk hattempt)
  exact ⟨l', notes, more, hattempt, hrun⟩

/-- What the client of a gateway is told. -/
theorem Attains.run_page (h : g.Attains remote op q (.ok reply) l p took) {r : Http.Request}
    (hq : op.readRequest r = .inr q) (metrics : String) :
    ((page remote metrics (.operation op) r).run g).result =
      .ok (op.response (op.decode reply)) := by
  obtain ⟨l', notes, more, -, hrun⟩ := h.run_last
  have hcall : (atLink op (Link.run g.rules remote op q)).run g =
      ⟨.ok (.ok (op.decode reply)), g.putLink op l'.passage, more⟩ := Act.run_on hrun
  unfold page
  rw [Act.run_bind_ok (Act.run_get g)]
  simp only
  rw [Operation.run_handle hq hcall]

end Gateway

namespace Operation

/-- What holds of a request `q` that a gateway has accepted in the request `r` over HTTP. -/
structure Relays (op : Operation) (r : Http.Request) (q : op.Request) : Prop where
  /-- The rules of a remote call ask nothing more. -/
  rules_kept : op.violations q = []
  /-- Whatever the endpoint of a backend answers of itself, the backend puts into a reply. A
  gateway that gets to this reply tells its client what the backend tells over HTTP. -/
  same_response : ∀ {σ : Type} (call : (op : Operation) → op.Request →
      Act σ (Except Failure op.Answer)) (s s' : σ) (notes : List Note) (a : op.Answer),
    (call op q).run s = ⟨.ok (.ok a), s', notes⟩ → op.IsOwn a →
    ((op.answerRpc call q).run s).result = .ok (.ok (op.encode a)) ∧
    ((op.handle call r).run s).result = .ok (op.response a) ∧
    ∀ (g : Gateway) (remote : Remote) (l : Link) (p : Retry.Progress) (took : Nat)
      (metrics : String), g.Attains remote op q (.ok (op.encode a)) l p took →
      ((Gateway.page remote metrics (.operation op) r).run g).result =
        ((op.handle call r).run s).result
  /-- An attempt that gets a reply, be it a rejection, is the last one of its call. -/
  never_retried : ∀ (g : Gateway) (remote : Remote) (reply : op.Reply) (l : Link)
    (p : Retry.Progress) (took : Nat), g.Attains remote op q (.ok reply) l p took →
    ∃ l' notes more,
      (g.rules.retry.attempt (Link.pick g.rules op) (Link.call remote op q) p).run l =
        ⟨.ok (.done (p.spent + Span.ofMillis took) (.ok (op.decode reply))), l', notes⟩ ∧
      (Link.run g.rules remote op q).run { g.link op with now := g.now } =
        ⟨.ok (.ok (op.decode reply)), l'.passage, more⟩
  /-- The services answer of themselves. -/
  services_own : ∀ {σ : Type} (setting : Accounts.Setting σ),
    Act.Gives (Server.OwnAnswer op) (Server.call setting op q)

/-- Through a gateway every accepted request is answered as the backend answers it over HTTP. -/
theorem a_relayed_answer_reads_as_the_backends_own (op : Operation) (r : Http.Request)
    (q : op.Request) (hq : op.readRequest r = .inr q) : Relays op r q where
  rules_kept := violations_of_readRequest hq
  same_response := by
    intro σ call s s' notes a hcall hown
    have hrpc := run_answerRpc (violations_of_readRequest hq) hcall
    have hhttp := run_handle hq hcall
    refine ⟨by rw [hrpc], by rw [hhttp], ?_⟩
    intro g remote l p took metrics hattains
    rw [hattains.run_page hq metrics, hhttp, decode_encode op a hown]
  never_retried := by
    intro g remote reply l p took hattains
    exact hattains.run_last
  services_own := by
    intro σ setting
    exact Server.call_own op q

/-- A token is asked about. -/
def tokenRequest : Http.Request where
  method := "GET"
  path := "/user/v1/valid"
  headers := [("authorization", "Bearer abc")]

/-- A backend that knows the token of Ann. -/
def annsBackend : (op : Operation) → op.Request → Act Unit (Except Failure op.Answer)
  | .validToken, _ => pure (.ok (.ok "ann"))
  | _, _ => pure (.error Rotation.nothing)

/-- A gateway that has dialled one instance. -/
def oneInstance : Gateway where
  rules := ⟨{}, ⟨3, Span.ofMillis 5000⟩, [], 0⟩
  now := ⟨0, 0⟩
  registry := {}
  watches := []
  links := [(.validToken, ⟨⟨0, 0⟩, ⟨{}, { service := "usersvc", endpoints := [0] }, {}⟩,
    [⟨⟨"1", "usersvc", "localhost", 80, none, []⟩, []⟩]⟩)]

/-- Its instance answers as the backend does, after 3 ms. -/
def annsReplies : Remote := fun _ op q =>
  ((op.answerRpc annsBackend q).run ()).result.toOption.map fun reply => (3, reply)

/-- The client of the gateway is told what the backend tells. -/
theorem a_token_is_relayed :
    Operation.validToken.readRequest tokenRequest = .inr "abc" ∧
      oneInstance.Attains annsReplies .validToken "abc" (.ok ⟨true, "ann", ""⟩)
        (oneInstance.entered .validToken) {} 3 ∧
      ((Gateway.page annsReplies "" (.operation .validToken) tokenRequest).run oneInstance).result =
        ((handle annsBackend .validToken tokenRequest).run ()).result := by
  have hq : Operation.validToken.readRequest tokenRequest = .inr "abc" := by cbv
  have hattains : oneInstance.Attains annsReplies .validToken "abc" (.ok ⟨true, "ann", ""⟩)
      (oneInstance.entered .validToken) {} 3 :=
    { in_turn := ⟨0, [], by decide, .none (by simp [Retry.Meets]; decide)⟩
      reached := ⟨_, ⟨0, _, _, _, _, _, rfl, rfl, rfl⟩, rfl⟩
      in_time := by decide }
  have relays := a_relayed_answer_reads_as_the_backends_own .validToken tokenRequest "abc" hq
  exact ⟨hq, hattains,
    (relays.same_response annsBackend () () [] (.ok "ann") rfl trivial).2.2 _ _ _ _ _ "" hattains⟩

end Operation

end ServiceMesh
