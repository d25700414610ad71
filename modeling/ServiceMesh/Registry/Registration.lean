-- Registrations: instances that a process has announced and takes back in the end.
import ServiceMesh.Registry.Memory
import ServiceMesh.Telemetry.Act

namespace ServiceMesh

def Instance.announcedNote (i : Instance) : Note :=
  .log .info "Registered service instance"
    [("service", .text i.name), ("instance_id", .text i.id), ("address", .text i.address)]

def Instance.withdrawnNote (i : Instance) : Note :=
  .log .info "Deregistered service instance" [("instance_id", .text i.id)]

/-- A registry, the present, and the registrations made; those taken back leave a gap. -/
structure Registrations where
  registry : Registry := {}
  now : Instant := 0
  made : List (Option Instance) := []

namespace Registrations

def change (m : Mutation) : Act Registrations Unit :=
  .modify fun s => { s with registry := s.registry.apply m }

/-- A query, with changes that happen after so many milliseconds. All of them have happened
in the end. -/
def query (q : Query) (wait : Nat) (changes : List (Nat × Mutation)) :
    Act Registrations Registry.QueryAnswer := do
  let s ← Act.get
  let changes := (changes.map fun (t, m) => (s.now + t, m)).mergeSort fun a b => a.1 ≤ b.1
  match s.registry.query q s.now wait changes with
  | .error c => Act.crash c
  | .ok (answer, registry, later) =>
    Act.modify fun s => { s with
      registry := registry.applyAll (later.map (·.2))
      now := (later.map (·.1)).foldl max answer.at_ }
    return answer

def announce (i : Instance) : Act Registrations Unit := do
  change (.register i)
  Act.modify fun s => { s with made := s.made ++ [some i] }
  Act.note [i.announcedNote]

/-- Takes the registration of a number back, and says whether there still was one. -/
def withdraw (n : Nat) : Act Registrations Bool := do
  match (← Act.get).made[n]?.join with
  | none => return false
  | some i =>
    change (.deregister i.id)
    Act.modify fun s => { s with made := s.made.set n none }
    Act.note [i.withdrawnNote]
    return true

end Registrations

end ServiceMesh
