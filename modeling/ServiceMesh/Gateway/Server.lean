-- A gateway: it watches a registry for the instances of the services, and serves the paths of
-- each service under its name.
import ServiceMesh.Gateway.Link
import ServiceMesh.Http.Cors
import ServiceMesh.Http.IpLimit
import ServiceMesh.Service.HttpApi

namespace ServiceMesh

def ServiceKind.all : List ServiceKind := [.add, .text, .user]

structure Gateway where
  rules : GatewayRules
  now : Moment
  /-- The registry that is watched. -/
  registry : Registry
  /-- One watch for each service. -/
  watches : List (ServiceKind × Watching MemorySource)
  /-- One link for each operation. -/
  links : List (Operation × Link)
  cors : Http.Cors := ⟨[]⟩
  clients : Option Http.IpLimiter := none

namespace Gateway

/-- How long a query of the registry waits, in milliseconds. -/
def registryWait : Nat := 30000

def idle (rules : GatewayRules) (now : Moment) (registry : Registry) : Gateway where
  rules := rules
  now := now
  registry := registry
  watches := ServiceKind.all.map fun kind =>
    (kind, ⟨{ service := kind.name }, ⟨{}, registryWait, 0⟩, now.millis⟩)
  links := Operation.all.map fun op => (op, Link.idle op now)

def link (op : Operation) (g : Gateway) : Link :=
  ((g.links.find? (·.1 = op)).map (·.2)).getD (.idle op g.now)

def putLink (op : Operation) (l : Link) (g : Gateway) : Gateway :=
  { g with links := g.links.map fun (o, k) => if o = op then (o, l) else (o, k), now := l.now }

def atLink {α : Type} (op : Operation) (a : Act Link α) : Act Gateway α :=
  a.on (fun g => { g.link op with now := g.now }) (putLink op)

/-! ## Discovery -/

def feed (kind : ServiceKind) (g : Gateway) : Feed :=
  ((g.watches.find? (·.1 = kind)).map (·.2.watch.feed)).getD {}

/-- A watch takes in how the registry stands. -/
def observe (registry : Registry) (w : Watching MemorySource) :
    Outcome (Watching MemorySource) Unit :=
  (Watching.advance MemorySource.source 0 0).run { w with source := { w.source with registry } }

/-- All watches take in how the registry stands, and the links hear of it. -/
def discover : Act Gateway Unit := do
  let g ← Act.get
  -- Every watch sees the registry as it stands now, and none waits for another.
  let seen := g.watches.map fun (kind, w) => (kind, observe g.registry w)
  Act.note (seen.flatMap fun (_, o) => o.notes)
  Act.modify fun g => { g with watches := seen.map fun (kind, o) => (kind, o.state) }
  Act.modify fun g =>
    { g with links := g.links.map fun (op, l) => (op, Link.hear (g.feed op.service) l) }

def change (ms : List Mutation) : Act Gateway Unit := do
  Act.modify fun g => { g with registry := g.registry.applyAll ms }
  discover

def openLinks (rules : GatewayRules) : Act Gateway Unit :=
  Operation.all.forM fun op => atLink op (Link.begin rules.endpoint op [])

def limitClients (rules : GatewayRules) : Act Gateway Unit :=
  if 0 < rules.ipLimit then
    match Quota.perWindow rules.ipLimit 60 with
    | .error c => Act.crash c
    | .ok quota => Act.modify fun g => { g with clients := some { quota } }
  else return ()

def admitOrigins (rules : GatewayRules) : Act Gateway Unit := do
  let (cors, notes) := Http.Cors.ofOrigins rules.corsOrigins
  Act.note notes
  match cors with
  | .error c => Act.crash c
  | .ok cors => Act.modify fun g => { g with cors }

def start : Act Gateway Unit := do
  let rules := (← Act.get).rules
  openLinks rules
  limitClients rules
  admitOrigins rules
  discover

def counts (g : Gateway) : List (String × Nat) :=
  ServiceKind.all.map fun kind => (kind.name, (g.feed kind).instances.length)

/-! ## Over HTTP -/

inductive Page where
  | health
  | metrics
  | operation (op : Operation)

/-- The paths of a gateway: its own, and under the name of each service those of the service's
operations. -/
def routes : List (Http.Route Page) :=
  [⟨"/health", .get, .health⟩, ⟨"/metrics", .get, .metrics⟩]
    ++ Operation.all.map fun op =>
      ⟨"/" ++ op.service.name ++ op.path, op.method, .operation op⟩

/-- A gateway is up while its services come and go; only the counts tell of them. -/
def health (g : Gateway) : Http.Response :=
  .json 200 (.object [("status", .text "ok"), ("service", .text "gateway"),
    ("version", .text Server.version),
    ("backends", .object (g.counts.map fun (name, n) => (name, .nat n)))])

def page (remote : Remote) (metrics : String) (page : Page) (r : Http.Request) :
    Act Gateway Http.Response := do
  let g ← Act.get
  match page with
  | .health => return g.health
  | .metrics => return Server.metricsPage metrics
  | .operation op =>
    Operation.handle (fun op request => atLink op (Link.run g.rules remote op request)) op r

/-- Lets a client's requests through as far as its limit goes. -/
def limited (peer : Option Http.IpAddress) (work : Http.Request → Act Gateway Http.Response)
    (r : Http.Request) : Act Gateway Http.Response := do
  match (← Act.get).clients with
  | none => work r
  | some l =>
    Http.IpLimiter.limited (fun g => g.clients.getD l) (fun l g => { g with clients := some l })
      peer work r

/-- The layers around all that a gateway serves: who may call from a browser is settled first,
then a request gets its id and is counted, and then its client's limit is asked. -/
def layers (peer : Option Http.IpAddress) (fresh : String)
    (work : (requestId : String) → Http.Request → Act Gateway Http.Response)
    (r : Http.Request) : Act Gateway Http.Response := do
  (← Act.get).cors.layer (Http.Route.standard fresh fun id => limited peer (work id)) r

/-- Serves an HTTP request of a peer. `fresh` is the id of a request that comes without one, and
`metrics` the text of the metrics page. -/
def serve (remote : Remote) (peer : Option Http.IpAddress) (fresh metrics : String)
    (r : Http.Request) : Act Gateway Http.Response :=
  Http.Route.respond (layers peer fresh) routes (fun _ => page remote metrics) r

end Gateway

end ServiceMesh
