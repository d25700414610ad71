-- The stores that a process is connected to, and their health.
import ServiceMesh.Http.Response

namespace ServiceMesh.Infra

/-- A store that a process holds a connection to, and what is wrong with it, if anything. -/
structure Handle where
  /-- The name in a health report. -/
  name : String
  /-- The name in a log. -/
  title : String
  fault : Option String
  deriving DecidableEq, Repr

def Handle.documents (fault : Option String) : Handle := ⟨"mongodb", "MongoDB", fault⟩

def Handle.cache (fault : Option String) : Handle := ⟨"redis", "Redis", fault⟩

def Handle.records (fault : Option String) : Handle := ⟨"mysql", "MySQL", fault⟩

abbrev Health := List (String × Bool)

def health (handles : List Handle) : Health := handles.map fun h => (h.name, h.fault.isNone)

def healthNotes (handles : List Handle) : List Note :=
  handles.filterMap fun h =>
    h.fault.map fun f => .log .error (h.title ++ " health check failed: " ++ f)

/-- A process is healthy when all its stores are. -/
def Health.allUp (h : Health) : Bool := h.all (·.2)

def Health.json (h : Health) : Json :=
  .object (h.map fun (name, up) => (name, .text (if up then "up" else "down")))

end ServiceMesh.Infra
