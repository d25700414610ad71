-- Calls through one circuit breaker that are under way at the same time. A
-- call passes, and later ends once: well, badly, or given up.
import Mathlib.Data.List.Induction
import ServiceMesh.Endpoint.Breaker

namespace ServiceMesh.Breaker

/-! ## The calls and the events -/

/-- A call that has passed and not ended yet. -/
structure Passed where
  ticket : Nat
  /-- How often the closed circuit had opened when the call passed. -/
  opening : Nat
  deriving DecidableEq, Repr

/-- A breaker, the present, and the calls inside. -/
structure Traffic where
  breaker : Breaker
  now : Instant
  inside : List Passed := []
  /-- The tickets handed out so far: each call that passes gets the next one. -/
  tickets : Nat := 0
  /-- How often the closed circuit has opened so far. -/
  openings : Nat := 0
  deriving DecidableEq, Repr

inductive Event where
  /-- A call asks to pass. -/
  | ask
  /-- A call that is inside ends, well or not. -/
  | finish (ticket : Nat) (success : Bool)
  /-- A call that is inside is given up. -/
  | drop (ticket : Nat)
  /-- Time passes. -/
  | wait (millis : Nat)
  deriving DecidableEq, Repr

/-- The call that an event ends, and how. One that is given up has not ended well. -/
def Event.ends? : Event → Option (Nat × Bool)
  | .finish ticket success => some (ticket, success)
  | .drop ticket => some (ticket, false)
  | _ => none

/-- Whether a closed circuit has opened. -/
def Circuit.opens : Circuit → Circuit → Bool
  | .closed _, .opened _ => true
  | _, _ => false

namespace Traffic

def circuit (t : Traffic) : Circuit := t.breaker.circuit

/-- A breaker without any calls. -/
def quiet (name : String) (settings : Settings) (now : Instant) : Traffic :=
  { breaker := ⟨name, settings, .closed 0⟩, now }

def ask (t : Traffic) : Traffic :=
  match t.breaker.enter t.now with
  | (b, _, .ok ()) =>
    { t with breaker := b, inside := t.inside ++ [⟨t.tickets, t.openings⟩], tickets := t.tickets + 1 }
  | (b, _, .error _) => { t with breaker := b }

/-- Whether the call with a ticket is inside. -/
def holds (t : Traffic) (ticket : Nat) : Bool := t.inside.any (·.ticket == ticket)

def without (t : Traffic) (ticket : Nat) : List Passed := t.inside.filter (·.ticket != ticket)

/-- A call leaves, with the breaker as it is then. -/
def leave (t : Traffic) (b : Breaker) (ticket : Nat) : Traffic :=
  { t with breaker := b, inside := t.without ticket
           openings := if t.circuit.opens b.circuit then t.openings + 1 else t.openings }

/-- A call that is inside ends. If the breaker breaks off over it, the circuit is as before. -/
def ending (t : Traffic) (ticket : Nat) (success : Bool) : Traffic :=
  if t.holds ticket then
    match (t.breaker.record t.now success).1 with
    | .ok b => t.leave b ticket
    | .error _ => t.leave t.breaker ticket
  else t

def step (t : Traffic) : Event → Traffic
  | .ask => t.ask
  | .finish ticket success => t.ending ticket success
  | .drop ticket => t.ending ticket false
  | .wait millis => { t with now := t.now + millis }

def run (t : Traffic) (events : List Event) : Traffic := events.foldl step t

theorem run_snoc (t : Traffic) (past : List Event) (e : Event) :
    t.run (past ++ [e]) = (t.run past).step e := List.foldl_append

end Traffic

end ServiceMesh.Breaker
