-- Calls from pages of other origins: a browser asks first, and is told which origins may
-- call.
import ServiceMesh.Http.Request

namespace ServiceMesh.Http

def isHeaderValue (s : String) : Bool :=
  s.toList.all fun c => c = '\t' || (32 ≤ c.toNat && c.toNat ≠ 127)

structure Cors where
  origins : List String
  deriving DecidableEq, Repr

namespace Cors

/-- The origin that stands for every origin. It has no place in a list. -/
def wildcard : String := "*"

/-- The origins of a list that can be told, and what is noted of the others. -/
def ofOrigins (origins : List String) : Except Crash Cors × List Note :=
  let usable := origins.filter isHeaderValue
  let notes := (origins.filter (!isHeaderValue ·)).map fun o => Note.log .error
    ("Invalid CORS origin \x27" ++ o ++ "\x27: failed to parse header value. Skipping.")
  if usable.contains wildcard then
    (.error (.other ("Wildcard origin (\x60*\x60) cannot be passed to \x60AllowOrigin::list\x60. "
      ++ "Use \x60AllowOrigin::any()\x60 instead")), notes)
  else (.ok ⟨usable⟩, notes)

/-- The origin that a request is told to be allowed: its own, if it is in the list. -/
def allowed? (c : Cors) (r : Request) : Option String :=
  (r.header? "origin").filter c.origins.contains

/-- The headers that every response carries: the origin allowed, and what it hangs on. -/
def headers (c : Cors) (r : Request) : List (String × String) :=
  ((c.allowed? r).map fun o => ("access-control-allow-origin", o)).toList
    ++ [("vary", "origin, access-control-request-method, access-control-request-headers")]

/-- The answer to a browser that asks first, whatever it asks for. -/
def preflight (c : Cors) (r : Request) : Response :=
  ⟨200, c.headers r ++ [("access-control-allow-methods", "GET,POST,OPTIONS"),
    ("access-control-allow-headers", "authorization,content-type")], ""⟩

/-- Answers whoever asks first, and lets all others through. -/
def layer {σ : Type} (c : Cors) (work : Request → Act σ Response) (r : Request) :
    Act σ Response :=
  if r.method == "OPTIONS" then return c.preflight r
  else do
    let response ← work r
    return { response with headers := response.headers ++ c.headers r }

end Cors

end ServiceMesh.Http
