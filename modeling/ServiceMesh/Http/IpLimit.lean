-- A limit on the requests of each client, told apart by address.
import ServiceMesh.Endpoint.Limiter
import ServiceMesh.Http.Address
import ServiceMesh.Http.Request

namespace ServiceMesh.Http

/-- A limiter for each client that has been seen. -/
structure IpLimiter where
  quota : Quota
  clients : List (IpAddress × Limiter) := []
  /-- The present, in nanoseconds. -/
  now : Nat := 0

namespace IpLimiter

/-- The client that a request comes from: the first address in the first `x-forwarded-for`
header, else the address of the peer. -/
def client? (peer : Option IpAddress) (r : Request) : Option IpAddress :=
  let forwarded := (r.textHeader? "x-forwarded-for").bind fun v =>
    IpAddress.parse? (Text.trim (String.ofList (v.toList.takeWhile (· ≠ ','))))
  forwarded <|> peer

def limiter (l : IpLimiter) (ip : IpAddress) : Limiter :=
  ((l.clients.find? (·.1 = ip)).map (·.2)).getD ⟨l.quota, none⟩

def put (l : IpLimiter) (ip : IpAddress) (limiter : Limiter) : IpLimiter :=
  { l with clients := (ip, limiter) :: l.clients.filter (·.1 ≠ ip) }

/-- A request of a client asks to pass: the failure that refuses it, if there is one. -/
def check (ip : IpAddress) : Act IpLimiter (Option Failure) := fun l =>
  let now := l.now
  let l := { l with now := now + 1 }
  match (l.limiter ip).check now with
  | .ok limiter => ⟨.ok none, l.put ip limiter, []⟩
  | .error wait =>
    ⟨.ok (some (.tooManyRequests "Too many requests from this IP. Please try again later."
      (some (Limiter.waitSeconds wait)))), l,
      [.log .warn "Rate limit exceeded" [("ip", .text ip.text)]]⟩

/-- Answers a request by `work`, or refuses it. A request whose client is not known passes. -/
def limited {σ : Type} (part : σ → IpLimiter) (put : IpLimiter → σ → σ)
    (peer : Option IpAddress) (work : Request → Act σ Response) (r : Request) :
    Act σ Response :=
  match client? peer r with
  | none => do
    Act.note [.log .warn "Could not determine IP for rate limiting"]
    work r
  | some ip => do
    match ← (check ip).on part put with
    | none => work r
    | some f => Act.noting (f.response, f.responseNotes)

end IpLimiter

end ServiceMesh.Http
