-- Picks from an endpoint set in turn.
import ServiceMesh.Discovery.EndpointSet

namespace ServiceMesh

/-- Where the next pick falls. The cursor starts anew after 2⁶⁴ picks. -/
structure Rotation where
  cursor : Nat := 0
  deriving DecidableEq, Repr

namespace Rotation

def advance (r : Rotation) : Rotation := ⟨(r.cursor + 1) % UInt64.size⟩

def nothing : Failure := .unavailable "no endpoints available"

/-- The endpoint whose turn it is. A pick that finds none leaves the turn as it is. -/
def pick {κ : Type} (endpoints : List κ) (r : Rotation) : Except Failure κ × Rotation :=
  match endpoints[r.cursor % endpoints.length]? with
  | some e => (.ok e, r.advance)
  | none => (.error nothing, r)

end Rotation

/-- The backends of a service: what is published of them, the endpoints, and whose turn it
is. -/
structure Backends (κ : Type) where
  feed : Feed
  set : EndpointSet κ
  rotation : Rotation := {}

namespace Backends

variable {τ κ : Type}

def none (service : String) : Backends κ := ⟨{}, { service }, {}⟩

def publish (instances : List Instance) (b : Backends κ) : Backends κ :=
  { b with feed := b.feed.publish instances }

/-- An act that brings the endpoint set to where it should be, unless the factory breaks off. -/
def renew (factory : Factory τ κ) (make : EndpointSet κ → Feed → Act τ (EndpointSet κ)) :
    Act (Backends κ × τ) Unit := fun s =>
  match make s.1.set s.1.feed s.2 with
  | ⟨.ok set, t, notes⟩ => ⟨.ok (), ({ s.1 with set }, t), notes⟩
  | ⟨.error c, t, notes⟩ =>
    ⟨.error c, ({ s.1 with set := s.1.set.brokenOff factory s.1.feed s.2 }, t), notes⟩

def begin (factory : Factory τ κ) (instances : List Instance) : Act (Backends κ × τ) Unit := do
  Act.modify fun s => ({ s.1 with feed := { instances } }, s.2)
  renew factory fun set feed => EndpointSet.ofFeed set.service factory feed

def refresh (factory : Factory τ κ) : Act (Backends κ × τ) (List κ) := do
  renew factory fun set feed => EndpointSet.read factory feed set
  return (← Act.get).1.set.endpoints

def pick (factory : Factory τ κ) : Act (Backends κ × τ) (Except Failure κ) := do
  let endpoints ← refresh factory
  let (picked, rotation) := (← Act.get).1.rotation.pick endpoints
  Act.modify fun s => ({ s.1 with rotation }, s.2)
  return picked

end Backends

end ServiceMesh
