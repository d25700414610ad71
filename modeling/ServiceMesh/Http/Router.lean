-- Routes: which request leads where.
import ServiceMesh.Http.Request

namespace ServiceMesh.Http

inductive Method where
  | get
  | post
  | put
  deriving DecidableEq, Repr

/-- A path, the method that it is asked with, and where it leads. -/
structure Route (τ : Type) where
  path : String
  method : Method
  target : τ

namespace Route

variable {τ σ : Type}

/-- Whether a route takes a request's method. What can be got can be asked for its head
alone. -/
def takes (route : Route τ) (method : String) : Bool :=
  match route.method with
  | .get => method == "GET" || method == "HEAD"
  | .post => method == "POST"
  | .put => method == "PUT"

def allowed (route : Route τ) : String :=
  match route.method with
  | .get => "GET,HEAD"
  | .post => "POST"
  | .put => "PUT"

/-- The answer of the routes: the target's, without its body if only the head is asked for; a
refusal of the method; or nothing found. Whatever is answered goes out through `layers`, which
also tell the target what they know of the request. -/
def respond {γ : Type} (layers : (γ → Request → Act σ Response) → Request → Act σ Response)
    (routes : List (Route τ)) (handle : γ → τ → Request → Act σ Response) (r : Request) :
    Act σ Response :=
  match routes.find? (·.path == r.path) with
  | none => layers (fun _ _ => return ⟨404, [], ""⟩) r
  | some route =>
    if route.takes r.method then do
      let response ← layers (fun known => handle known route.target) r
      return if r.method == "HEAD" then { response with body := "" } else response
    else do
      let response ← layers (fun _ _ => return ⟨405, [], ""⟩) r
      return response.withHeader "allow" route.allowed

def bare (work : Unit → Request → Act σ Response) : Request → Act σ Response := work ()

/-- What is counted of a request. The path is as the request gives it, without its query. -/
def requestNotes (r : Request) (response : Response) : List Note :=
  let labels := [("method", r.method), ("path", r.path), ("status", toString response.status)]
  [.counted "http_requests_total" labels,
    .counted "http_request_duration_seconds_count" labels]

/-- The standard layers: a request is served under its id, and counted. -/
def standard (fresh : String) (work : (requestId : String) → Request → Act σ Response) :
    Request → Act σ Response :=
  withRequestId fresh fun r id => do
    let response ← work id r
    Act.note (requestNotes r response)
    return response

end Route

end ServiceMesh.Http
