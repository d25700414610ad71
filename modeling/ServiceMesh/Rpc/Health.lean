-- The health that a server reports to remote callers, by service; the empty name stands for
-- the server as a whole.
import ServiceMesh.Infra.Health
import ServiceMesh.Rpc.Status

namespace ServiceMesh.Rpc

inductive Serving where
  | serving
  | notServing
  | unknown
  deriving DecidableEq, Repr

def Serving.name : Serving → String
  | .serving => "Serving"
  | .notServing => "NotServing"
  | .unknown => "Unknown"

/-- One service, the server as a whole, and their health. -/
structure HealthBoard where
  service : String
  serving : Serving := .serving
  deriving DecidableEq, Repr

namespace HealthBoard

/-- The health of a service. Only one service and the server as a whole are known. -/
def check (b : HealthBoard) (name : String) : Except Status Serving :=
  if name = b.service || name.isEmpty then .ok b.serving
  else .error ⟨.notFound, "service not registered", none⟩

/-- The stores by name with their health, as in a log. -/
def storesText (h : Infra.Health) : String :=
  "\x7b" ++ ", ".intercalate (h.map fun (name, up) =>
    Text.quote name ++ ": " ++ (if up then "Up" else "Down")) ++ "\x7d"

/-- Looks at the stores again and again. The board changes only when what is seen differs from
what was seen before; at first the stores count as healthy. -/
def watch (b : HealthBoard) (handles : List Infra.Handle) : HealthBoard × List Note :=
  let h := Infra.health handles
  let seen := Infra.healthNotes handles
  if h.allUp then (b, seen)
  else
    ({ b with serving := .notServing }, seen ++ [.log .warn "gRPC health status changed"
      [("service", .text b.service), ("status", .text "NotServing"),
        ("stores", .text (storesText h))]])

end HealthBoard

end ServiceMesh.Rpc
