-- HTTP responses, and how a failure is answered over HTTP.
import ServiceMesh.Failure.Basic
import ServiceMesh.Telemetry.Note

namespace ServiceMesh.Http

/-- A response. Names of headers are lower case; the order of the headers has no meaning. -/
structure Response where
  status : Nat
  headers : List (String × String) := []
  body : String := ""
  deriving DecidableEq, Repr

namespace Response

def json (status : Nat) (body : Json) : Response :=
  ⟨status, [("content-type", "application/json")], body.render⟩

def plain (status : Nat) (body : String) : Response :=
  ⟨status, [("content-type", "text/plain; charset=utf-8")], body⟩

def header? (r : Response) (name : String) : Option String :=
  (r.headers.find? (·.1 == name)).map (·.2)

def withHeader (r : Response) (name value : String) : Response :=
  { r with headers := r.headers ++ [(name, value)] }

end Response

end ServiceMesh.Http

namespace ServiceMesh.Failure

/-- The body that tells a failure: its message, and details where there are any. -/
def body (f : Failure) : Json :=
  let (message, details) := f.publicParts
  .object (("error", .text message) :: (details.map fun d => ("details", Json.text d)).toList)

def response (f : Failure) : Http.Response :=
  let r := Http.Response.json f.httpStatus f.body
  match f.retryAfter? with
  | none => r
  | some seconds => r.withHeader "retry-after" (toString seconds.toNat)

/-- What is noted when a failure is answered over HTTP: all that is the server's fault. -/
def responseNotes (f : Failure) : List Note :=
  if 500 ≤ f.httpStatus then
    [.log .error "Request failed" [("error", .text f.display)]]
  else []

end ServiceMesh.Failure
