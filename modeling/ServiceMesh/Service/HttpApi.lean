-- The HTTP side of a server: its operations, its health, and its metrics.
import ServiceMesh.Http.Router
import ServiceMesh.Infra.Health
import ServiceMesh.Service.Server

namespace ServiceMesh

namespace Operation

def path : Operation → String
  | .sum => "/sum"
  | .concat => "/concat"
  | .uppercase => "/uppercase"
  | .count => "/count"
  | .register => "/user/v1/register"
  | .login => "/user/v1/login"
  | .updatePassword => "/user/v1/password"
  | .validToken => "/user/v1/valid"

def method : Operation → Http.Method
  | .validToken => .get
  | _ => .post

def route (op : Operation) : Http.Route Operation := ⟨op.path, op.method, op⟩

/-- What a request comes to before the operation is called: a response right away, or the
operation's request. Bodies of the user operations are told faults in general words, and
their fields have rules. -/
def readRequest (r : Http.Request) : (op : Operation) → (Http.Response × List Note) ⊕ op.Request
  | .validToken =>
    match r.bearer? with
    | some token => .inr token
    | none => .inl (Rejection.response UserRejection.invalidToken, [])
  | op =>
    match r.json op.reader, op.service with
    | .error fault, .user => .inl (fault.failure.response, fault.failure.responseNotes)
    | .error fault, _ => .inl (fault.response, [])
    | .ok request, _ =>
      match op.violations request with
      | [] => .inr request
      | vs => .inl ((Failure.invalid vs).response, (Failure.invalid vs).responseNotes)

/-- Answers a request by calling an endpoint, here or elsewhere. -/
def handle {σ : Type} (call : (op : Operation) → op.Request → Act σ (Except Failure op.Answer))
    (op : Operation) (r : Http.Request) : Act σ Http.Response :=
  match op.readRequest r with
  | .inl (response, notes) => Act.noting (response, notes)
  | .inr request => do
    match ← call op request with
    | .error f => Act.noting (f.response, f.responseNotes)
    | .ok answer => Act.noting (op.response answer, op.responseNotes answer)

end Operation

namespace Server

variable {σ : Type}

inductive Page where
  | health
  | ready
  | metrics
  | operation (op : Operation)

def version : String := "0.1.0"

def routes (kind : ServiceKind) : List (Http.Route Page) :=
  [⟨"/health", .get, .health⟩, ⟨"/ready", .get, .ready⟩, ⟨"/metrics", .get, .metrics⟩]
    ++ (Operation.ofService kind).map fun op => ⟨op.path, op.method, .operation op⟩

def plainHealth (name : String) : Http.Response :=
  .json 200 (.object [("status", .text "ok"), ("service", .text name),
    ("version", .text version)])

def storeHealth (name : String) (handles : List Infra.Handle) : Http.Response :=
  let h := Infra.health handles
  .json (if h.allUp then 200 else 503) (.object
    [("status", .text (if h.allUp then "ok" else "degraded")), ("service", .text name),
      ("version", .text version), ("stores", h.json)])

def metricsPage (text : String) : Http.Response := .plain 200 text

def page (setting : Accounts.Setting σ) (handles : List Infra.Handle) (metrics : String)
    (page : Page) (r : Http.Request) : Act (Server σ) Http.Response := do
  let kind := (← Act.get).kind
  match page, kind with
  | .health, .user => Act.noting (storeHealth kind.name handles, Infra.healthNotes handles)
  | .health, _ => return plainHealth kind.name
  | .ready, _ => return ⟨200, [], ""⟩
  | .metrics, _ => return metricsPage metrics
  | .operation op, _ => Operation.handle (Server.call setting) op r

/-- Serves an HTTP request. `fresh` is the id of a request that comes without one, and
`metrics` the text of the metrics page. -/
def serve (setting : Accounts.Setting σ) (handles : List Infra.Handle) (fresh metrics : String)
    (r : Http.Request) : Act (Server σ) Http.Response := do
  let kind := (← Act.get).kind
  Http.Route.respond (Http.Route.standard fresh) (routes kind)
    (fun _ => page setting handles metrics) r

end Server

end ServiceMesh
