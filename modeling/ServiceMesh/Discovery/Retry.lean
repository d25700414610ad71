-- Calls that are tried again, at another endpoint each time, until one succeeds, the attempts
-- are used up, or time has run out.
import ServiceMesh.Endpoint.Breaker
import ServiceMesh.Text.Span

namespace ServiceMesh

structure Retry where
  /-- The attempts; there is one at least. -/
  max : Nat
  /-- The time for all attempts together, in nanoseconds, as are all spans of a call. -/
  timeout : Nat
  deriving DecidableEq, Repr

/-- What a call comes to that may not take longer than some time. -/
inductive Timed (ρ : Type) where
  /-- It ended, in time. -/
  | ended (took : Nat) (result : Except Failure ρ)
  /-- It was given up when its time had passed. -/
  | overran

namespace Retry

def attempts (r : Retry) : Nat := Nat.max 1 r.max

structure Progress where
  /-- The time that it has taken. -/
  spent : Nat := 0
  /-- What the attempts so far came to. -/
  failures : List String := []
  /-- Whether any endpoint was called. -/
  called : Bool := false
  /-- The latest refusal of an endpoint. -/
  refusal : Option Failure := none

namespace Progress

def refused (f : Failure) (p : Progress) : Progress :=
  { p with failures := p.failures ++ [f.display], refusal := some f }

def failed (took : Nat) (f : Failure) (p : Progress) : Progress :=
  { p with spent := p.spent + took, failures := p.failures ++ [f.display], called := true }

def number (p : Progress) : Nat := p.failures.length + 1

end Progress

/-- What is reported when time has run out. -/
def late (r : Retry) (p : Progress) : Failure :=
  let before := if p.failures.isEmpty then ""
    else " (previous: " ++ "; ".intercalate p.failures ++ ")"
  .badGateway ("retry deadline of " ++ Text.spanText r.timeout ++ " exceeded on attempt "
    ++ toString p.number ++ before)

/-- What is reported when no attempt is left. If there was nothing to call at all, that. -/
def exhausted (r : Retry) (p : Progress) : Failure :=
  match p.called, p.refusal with
  | false, some f => f
  | _, _ => .badGateway ("retry attempts exhausted (" ++ toString r.attempts ++ "): "
      ++ "; ".intercalate p.failures)

variable {σ κ ρ : Type}

/-- What an attempt leads to: the next one, or the end of the call after some time. -/
inductive Step (ρ : Type) where
  | again (p : Progress)
  | done (spent : Nat) (result : Except Failure ρ)

def attempt (r : Retry) (pick : Act σ (Except Failure κ))
    (call : κ → (remaining : Nat) → Act σ (Timed ρ)) (p : Progress) : Act σ (Step ρ) := do
  match ← pick with
  | .error f => return .again (p.refused f)
  | .ok endpoint =>
    match ← call endpoint (r.timeout - p.spent) with
    | .ended took (.ok x) => return .done (p.spent + took) (.ok x)
    | .ended took (.error f) =>
      Act.note [.log .debug ("Attempt failed: " ++ f.display) [("attempt", .int p.number)],
        .counted "gateway_retry_failed_attempts_total" []]
      return .again (p.failed took f)
    | .overran =>
      Act.note [.counted "gateway_retry_deadline_exceeded_total" []]
      return .done r.timeout (.error (r.late p))

def go (r : Retry) (pick : Act σ (Except Failure κ))
    (call : κ → (remaining : Nat) → Act σ (Timed ρ)) :
    (left : Nat) → Progress → Act σ (Nat × Except Failure ρ)
  | 0, p => return (p.spent, .error (r.exhausted p))
  | left + 1, p => do
    match ← r.attempt pick call p with
    | .done spent result => return (spent, result)
    | .again p => go r pick call left p

/-- A whole call that begins now: how long it took, and what it came to. The deadline is computed
before anything is asked for, and a call whose deadline is beyond the clock breaks off there. -/
def run (r : Retry) (now : Instant) (pick : Act σ (Except Failure κ))
    (call : κ → (remaining : Nat) → Act σ (Timed ρ)) : Act σ (Nat × Except Failure ρ) :=
  -- As instants are whole milliseconds, those of the timeout decide.
  match now.after (Span.millis r.timeout) with
  | .error c => Act.crash c
  | .ok _ => r.go pick call r.attempts {}

end Retry

end ServiceMesh
