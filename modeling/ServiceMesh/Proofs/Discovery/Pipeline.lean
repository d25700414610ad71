-- A registry in memory, a watch on it, the endpoints made from what the watch
-- publishes, and picks from them: whoever comes next takes one step. A change
-- of the registry may take two steps, the entry first and then the index. A
-- query comes to the entries in the order of the registry; any other order
-- would tell the same, as the watch sorts what it is told.
import Mathlib.Data.List.Induction
import ServiceMesh.Discovery.Rotation

namespace ServiceMesh

structure Pipeline (κ τ : Type) where
  registry : Registry := {}
  /-- The changes whose entry is written while the index is still to move. -/
  writing : Nat := 0
  watch : Watch
  /-- How far the query of the watch has come. -/
  query : QueryStage := .indexing
  set : EndpointSet κ
  rotation : Rotation := {}
  /-- What the factory works on. -/
  workshop : τ
  now : Instant := 0
  /-- How long a query waits for a change, in milliseconds. -/
  wait : Nat

namespace Pipeline

variable {κ τ : Type}

inductive Event where
  /-- A change of the registry, from its beginning to its end. -/
  | change (m : Mutation)
  /-- The first half of a change. -/
  | write (m : Mutation)
  /-- The second half of a change whose first half has been made. -/
  | settle
  /-- The watch takes a step. -/
  | watch
  /-- Time passes. -/
  | elapse (millis : Nat)
  /-- The endpoints are made from the feed for the first time. -/
  | subscribe
  | pick
  deriving DecidableEq, Repr

/-- Whether an event is no half of a change. -/
def Event.isWhole : Event → Bool
  | .write _ | .settle => false
  | _ => true

/-- An empty registry, and a watch on a service that has not asked yet. -/
def fresh (service : String) (wait : Nat) (workshop : τ) : Pipeline κ τ :=
  { watch := { service }, set := { service }, workshop, wait }

/-- The watch goes on, and its next query begins if it has come to ask. One that breaks off takes
the watch along. -/
def goOn (t : Pipeline κ τ) (w : Watch) : Pipeline κ τ :=
  match w.query? with
  | none => { t with watch := w, query := .indexing }
  | some q =>
    match QueryStage.start q t.now t.wait with
    | .brokenOff _ => { t with watch := w.cancel.1, query := .indexing }
    | query => { t with watch := w, query }

/-- The watch wakes up, or its query takes a step, or the answer comes in. -/
def watchStep (t : Pipeline κ τ) : Pipeline κ τ :=
  match t.watch.query? with
  | none => t.goOn (t.watch.woken t.now)
  | some q =>
    match t.query with
    | .answered instances index =>
      t.goOn (t.watch.answered (.ok (instances, index)) t.now).1
    | query => { t with query := query.step q t.registry t.now }

/-- The second half of a change, if there is one to come. -/
def settle (t : Pipeline κ τ) : Pipeline κ τ :=
  if t.writing = 0 then t else { t with registry := t.registry.bump, writing := t.writing - 1 }

section Factory

variable (factory : Factory τ κ)

/-- A pick as it comes out now. -/
def picked (t : Pipeline κ τ) : Outcome (Backends κ × τ) (Except Failure κ) :=
  (Backends.pick factory).run (⟨t.watch.feed, t.set, t.rotation⟩, t.workshop)

def pick (t : Pipeline κ τ) : Pipeline κ τ :=
  let after := (t.picked factory).state
  { t with set := after.1.set, rotation := after.1.rotation, workshop := after.2 }

def subscribe (t : Pipeline κ τ) : Pipeline κ τ :=
  match (EndpointSet.ofFeed t.watch.service factory t.watch.feed).run t.workshop with
  | ⟨.ok set, workshop, _⟩ => { t with set, rotation := {}, workshop }
  | ⟨.error _, workshop, _⟩ => { t with workshop }

def step (t : Pipeline κ τ) : Event → Pipeline κ τ
  | .change m => { t with registry := t.registry.apply m }
  | .write m => { t with registry := t.registry.write m, writing := t.writing + 1 }
  | .settle => t.settle
  | .watch => t.watchStep
  | .elapse millis => { t with now := t.now + millis }
  | .subscribe => t.subscribe factory
  | .pick => t.pick factory

def run (t : Pipeline κ τ) (events : List Event) : Pipeline κ τ := events.foldl (step factory) t

theorem run_snoc (t : Pipeline κ τ) (events : List Event) (e : Event) :
    t.run factory (events ++ [e]) = (t.run factory events).step factory e := List.foldl_append

end Factory

/-- The watch waits for the registry to get past where it is. -/
def Parked (t : Pipeline κ τ) : Prop :=
  (∃ deadline, t.query = .waiting deadline) ∧ t.watch.stage = .asking t.registry.index

end Pipeline

end ServiceMesh
