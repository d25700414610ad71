-- Chains of layers around an endpoint. A call goes in through the layers from the outermost
-- one on, and its result comes out through them in reverse. A layer may refuse a call: then the
-- layers behind it see nothing, and those before it see the refusal as the result.
import ServiceMesh.Endpoint.Breaker
import ServiceMesh.Endpoint.Limiter

namespace ServiceMesh

/-- The present, on the clock of breakers and deadlines and on the clock of limiters. -/
structure Moment where
  millis : Instant
  nanos : Nat
  deriving DecidableEq, Repr

/-- One layer, with whatever it keeps from call to call. -/
inductive Layer where
  /-- Marks each call on its way in and out. -/
  | tag (name : String)
  | breaker (b : Breaker)
  | limiter (l : Limiter)
  /-- Logs how each call ended. -/
  | logging (method : String)
  /-- Counts calls by how they ended. -/
  | instrumenting (method : String)
  deriving DecidableEq, Repr

/-- Layers, the outermost first. -/
abbrev Chain := List Layer

namespace Layer

/-- A call goes in: the layer after it, what is noted, and the refusal if there is one. -/
def enter (now : Moment) : Layer → Layer × List Note × Except Failure Unit
  | .tag name => (.tag name, [.mark (name ++ ":in")], .ok ())
  | .breaker b =>
    let (b, notes, r) := b.enter now.millis
    (.breaker b, notes, r)
  | .limiter l =>
    match l.check now.nanos with
    | .ok l => (.limiter l, [], .ok ())
    | .error wait =>
      (.limiter l, [],
        .error (.tooManyRequests "Rate limit exceeded" (some (Limiter.waitSeconds wait))))
  | .logging method => (.logging method, [], .ok ())
  | .instrumenting method => (.instrumenting method, [], .ok ())

/-- A call that went in comes out with its result. -/
def leave (now : Moment) (r : Except Failure Unit) : Layer → Except Crash Layer × List Note
  | .tag name =>
    (.ok (.tag name), [.mark (name ++ (match r with | .ok _ => ":ok" | .error _ => ":err"))])
  | .breaker b =>
    let (b, notes) := b.record now.millis r.isOk
    (b.map .breaker, notes)
  | .limiter l => (.ok (.limiter l), [])
  | .logging method =>
    (.ok (.logging method), match r with
      | .ok _ => [.log .debug "endpoint call completed"]
      | .error f => [.log .warn "endpoint call failed" [("error", .text f.display)]])
  | .instrumenting method =>
    (.ok (.instrumenting method),
      [.counted "request_duration_seconds_count"
        [("method", method), ("success", if r.isOk then "true" else "false")]])

/-- A call that went in is given up. Only a breaker takes notice. -/
def abandon (now : Moment) : Layer → Except Crash Layer × List Note
  | .breaker b =>
    let (b, notes) := b.record now.millis false
    (b.map .breaker, notes)
  | l => (.ok l, [])

end Layer

namespace Chain

/-- What going in or out of a chain comes to: the chain after it, what was noted, and a crash
if a layer broke off. -/
structure Passage where
  chain : Chain
  notes : List Note
  crash : Option Crash := none
  deriving DecidableEq

/-- A layer put in front of a passage through the layers behind it. -/
def Passage.cons (l : Layer) (p : Passage) : Passage := { p with chain := l :: p.chain }

/-- A call is given up: every layer lets go of it, the innermost first. -/
def abandon (now : Moment) : Chain → Passage
  | [] => ⟨[], [], none⟩
  | l :: rest =>
    let p := abandon now rest
    match l.abandon now with
    | (.ok l, notes) => ⟨l :: p.chain, p.notes ++ notes, p.crash⟩
    | (.error c, notes) => ⟨l :: p.chain, p.notes ++ notes, some (p.crash.getD c)⟩

/-- One layer sees the result of a passage behind it; after a crash it only lets go. -/
def leaveOne (now : Moment) (r : Except Failure Unit) (l : Layer) (p : Passage) : Passage :=
  let (l', notes) := if p.crash.isNone then l.leave now r else l.abandon now
  match l' with
  | .ok l' => ⟨l' :: p.chain, p.notes ++ notes, p.crash⟩
  | .error c => ⟨l :: p.chain, p.notes ++ notes, some (p.crash.getD c)⟩

/-- A result comes out through all layers, the innermost first. -/
def leave (now : Moment) (r : Except Failure Unit) : Chain → Passage
  | [] => ⟨[], [], none⟩
  | l :: rest => leaveOne now r l (leave now r rest)

/-- A call goes in. If a layer refuses it, the refusal has come out again through the layers
before that one. -/
def enter (now : Moment) : Chain → Passage × Except Failure Unit
  | [] => (⟨[], [], none⟩, .ok ())
  | l :: rest =>
    match l.enter now with
    | (l, notes, .error f) => (⟨l :: rest, notes, none⟩, .error f)
    | (l, notes, .ok ()) =>
      match enter now rest with
      | (p, .ok ()) => (⟨l :: p.chain, notes ++ p.notes, p.crash⟩, .ok ())
      | (p, .error f) =>
        -- This layer let the call in, so it sees the refusal as the call's result.
        let p := leaveOne now (.error f) l p
        ({ p with notes := notes ++ p.notes }, .error f)

def breakers (c : Chain) : List Breaker :=
  c.filterMap fun
    | .breaker b => some b
    | _ => none

/-- The layers around every operation of a server: a limiter unless the rate is 0, a breaker,
logging and counting. -/
def standard (method : String) (rate maxFailures openSeconds : Nat) : Except Crash Chain := do
  let limiter ← if rate = 0 then pure [] else
    (Quota.perWindow rate 1).map fun q => [Layer.limiter ⟨q, none⟩]
  return limiter ++ [.breaker ⟨method, ⟨max maxFailures 1, openSeconds * 1000⟩, .closed 0⟩,
    .logging method, .instrumenting method]

end Chain

end ServiceMesh
