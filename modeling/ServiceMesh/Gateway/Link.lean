-- The way from a gateway to one operation: an endpoint for every instance of its service, each
-- behind a limiter and a breaker of its own; picks in turn; and retries around them.
import ServiceMesh.Discovery.Retry
import ServiceMesh.Discovery.Rotation
import ServiceMesh.Endpoint.Config
import ServiceMesh.Endpoint.Guard
import ServiceMesh.Gateway.Rules
import ServiceMesh.Rpc.Status
import ServiceMesh.Service.Operation
import ServiceMesh.Web.Reach
import ServiceMesh.Web.RemoteUri

namespace ServiceMesh

/-- Whoever answers remote calls: the milliseconds that an answer takes, and the answer. A call
may also never be answered. -/
abbrev Remote :=
  Instance → (op : Operation) → op.Request → Option (Nat × Except Rpc.Status op.Reply)

/-- Instances of which none can be reached: every call fails as soon as it is made. -/
def Remote.ofReach (reach : Web.Reach) : Remote := fun i _ _ =>
  (reach i.host).map fun fault => (0, .error ⟨.unavailable, fault.brief, none⟩)

structure Dialled where
  inst : Instance
  chain : Chain
  deriving DecidableEq, Repr

/-- An endpoint is known by the place of what was dialled for it. -/
structure Link where
  now : Moment
  backends : Backends Nat
  dialled : List Dialled := []

namespace Link

variable {α : Type}

def idle (op : Operation) (now : Moment) : Link := ⟨now, .none op.service.name, []⟩

def breaker (config : EndpointConfig) (op : Operation) (i : Instance) : Breaker :=
  ⟨op.service.name ++ "." ++ op.name ++ "@" ++ i.id,
    ⟨max config.maxFailures 1, config.openSeconds * 1000⟩, .closed 0⟩

/-- The layers around the calls of an instance: a limiter unless the rate is 0, and a breaker. -/
def chain (config : EndpointConfig) (op : Operation) (i : Instance) : Except Crash Chain := do
  let limiter ← if config.rate = 0 then pure [] else
    (Quota.perWindow config.rate 1).map fun q => [Layer.limiter ⟨q, none⟩]
  return limiter ++ [.breaker (breaker config op i)]

def undialled (i : Instance) : Failure :=
  .badGateway ("invalid endpoint " ++ i.grpcUri ++ " for " ++ i.id ++ ": invalid URI")

/-- Makes the endpoint of an instance. Nobody is called for that. -/
def dial (config : EndpointConfig) (op : Operation) : Factory (List Dialled) Nat := fun i => do
  if !Web.isRemotePlace i.grpcPlace then return .error (undialled i)
  match chain config op i with
  | .error c => Act.crash c
  | .ok chain =>
    let before ← Act.get
    Act.modify (· ++ [⟨i, chain⟩])
    return .ok before.length

def atBackends (a : Act (Backends Nat × List Dialled) α) : Act Link α :=
  a.on (fun l => (l.backends, l.dialled)) fun s l => { l with backends := s.1, dialled := s.2 }

def begin (config : EndpointConfig) (op : Operation) (found : List Instance) : Act Link Unit :=
  atBackends (Backends.begin (dial config op) found)

def hear (feed : Feed) (l : Link) : Link := { l with backends := { l.backends with feed } }

def guard (n : Nat) (l : Link) : Guard := ⟨(l.dialled[n]?.map (·.chain)).getD [], l.now⟩

def putGuard (n : Nat) (g : Guard) (l : Link) : Link :=
  { l with dialled := l.dialled.modify n fun d => { d with chain := g.chain }, now := g.now }

def advance (millis : Nat) : Act Link Unit :=
  Act.modify fun l => { l with now := { l.now with millis := l.now.millis + millis } }

/-- Calls an endpoint. A call that has not ended in the time that remains is given up. -/
def call (remote : Remote) (op : Operation) (r : op.Request) (n : Nat) (remaining : Nat) :
    Act Link (Timed op.Answer) := do
  match ← Guard.enter.on (guard n) (putGuard n) with
  | .error f => return .ended 0 (.error f)
  | .ok () =>
    match ((← Act.get).dialled[n]?).bind fun d => remote d.inst op r with
    | some (took, reply) =>
      if Span.ofMillis took ≤ remaining then
        advance took
        let result := (reply.mapError Failure.ofStatus).map op.decode
        (Guard.leave (result.map fun _ => ())).on (guard n) (putGuard n)
        return .ended (Span.ofMillis took) result
      else giveUp
    | none => giveUp
where
  giveUp : Act Link (Timed op.Answer) := do
    -- A timer goes off at the first millisecond that is not before its instant.
    advance (Span.millis (remaining + 999999))
    Guard.abandon.on (guard n) (putGuard n)
    return .overran

def outer (op : Operation) (l : Link) : Guard :=
  ⟨[.logging op.name, .instrumenting op.name], l.now⟩

/-- Endpoints are tried in turn until one answers. -/
def tries (rules : GatewayRules) (remote : Remote) (op : Operation) (r : op.Request) :
    Act Link (Except Failure op.Answer) := do
  let now := (← Act.get).now.millis
  let (_, result) ← rules.retry.run now (atBackends (Backends.pick (dial rules.endpoint op)))
    (call remote op r)
  return result

def run (rules : GatewayRules) (remote : Remote) (op : Operation) (r : op.Request) :
    Act Link (Except Failure op.Answer) :=
  Act.guarded (outer op) (fun g l => { l with now := g.now }) (tries rules remote op r)

end Link

end ServiceMesh
