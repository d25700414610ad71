-- One endpoint for each instance that a feed tells of. The set is made anew when it is read
-- after a change; an instance that is registered as before keeps its endpoint.
import ServiceMesh.Discovery.Watch

namespace ServiceMesh

/-- An endpoint, and the instance that it was built for. -/
structure Built (κ : Type) where
  inst : Instance
  endpoint : κ
  deriving DecidableEq, Repr

structure EndpointSet (κ : Type) where
  service : String
  /-- The version of the feed that was read last. -/
  seen : Nat := 0
  /-- What was built, once for an id. -/
  cache : List (Built κ) := []
  /-- The endpoints in the order of their instances. -/
  endpoints : List κ := []
  deriving DecidableEq, Repr

/-- Builds the endpoint of an instance, or fails to. -/
abbrev Factory (σ κ : Type) := Instance → Act σ (Except Failure κ)

namespace EndpointSet

variable {σ κ : Type}

/-- A set under way: what is left of the old one, and the new one so far. -/
structure Rebuild (κ : Type) where
  previous : List (Built κ)
  cache : List (Built κ) := []
  endpoints : List κ := []

namespace Rebuild

def add (b : Built κ) (r : Rebuild κ) : Rebuild κ :=
  { r with cache := r.cache.filter (·.inst.id != b.inst.id) ++ [b]
           endpoints := r.endpoints ++ [b.endpoint] }

/-- The next instance: its old endpoint if it is registered as before, else a new one. Without
an endpoint it is left out. -/
def next (service : String) (factory : Factory σ κ) (r : Rebuild κ) (i : Instance) :
    Act σ (Rebuild κ) := do
  let old := r.previous.find? (·.inst.id == i.id)
  -- What stays in `previous` to the end belongs to instances that are gone.
  let r := { r with previous := r.previous.filter (·.inst.id != i.id) }
  match old.filter (·.inst = i) with
  | some b => return r.add b
  | none =>
    match ← factory i with
    | .ok endpoint => return r.add ⟨i, endpoint⟩
    | .error f =>
      Act.note [.log .warn ("Failed to create endpoint: " ++ f.display)
        [("service", .text service), ("instance_id", .text i.id)]]
      return r

/-- How far a set under way comes with a list: to its end, or to where the factory breaks off. -/
def reached (service : String) (factory : Factory σ κ) (r : Rebuild κ) :
    List Instance → σ → Rebuild κ
  | [], _ => r
  | i :: is, t =>
    match next service factory r i t with
    | ⟨.ok r, t, _⟩ => reached service factory r is t
    | ⟨.error _, _, _⟩ => r

end Rebuild

def rebuild (factory : Factory σ κ) (instances : List Instance) (s : EndpointSet κ) :
    Act σ (EndpointSet κ) := do
  let r ← instances.foldlM (Rebuild.next s.service factory) (⟨s.cache, [], []⟩ : Rebuild κ)
  Act.note [.log .debug "Endpoint set rebuilt" [("service", .text s.service),
    ("endpoints", .int r.endpoints.length), ("dropped", .int r.previous.length)]]
  return { s with cache := r.cache, endpoints := r.endpoints }

def ofFeed (service : String) (factory : Factory σ κ) (feed : Feed) : Act σ (EndpointSet κ) :=
  rebuild factory feed.instances { service, seen := feed.version }

/-- Reads the feed. A closed one tells of no change any more. -/
def read (factory : Factory σ κ) (feed : Feed) (s : EndpointSet κ) : Act σ (EndpointSet κ) :=
  if feed.isOpen ∧ feed.version ≠ s.seen then
    rebuild factory feed.instances { s with seen := feed.version }
  else return s

/-- What is left of a set when the factory breaks off over a feed. The feed counts as read and
the old endpoints stay, but the next rebuild can keep only what this one has come to. -/
def brokenOff (factory : Factory σ κ) (feed : Feed) (s : EndpointSet κ) (t : σ) : EndpointSet κ :=
  { s with
    seen := feed.version
    cache := (Rebuild.reached s.service factory ⟨s.cache, [], []⟩ feed.instances t).cache }

end EndpointSet

end ServiceMesh
