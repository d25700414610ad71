-- How the endpoints of a process are guarded.

namespace ServiceMesh

structure EndpointConfig where
  /-- Calls per second; 0 sets no limit. -/
  rate : Nat := 100
  /-- The failures in a row that open a breaker. -/
  maxFailures : Nat := 5
  openSeconds : Nat := 30
  deriving DecidableEq, Repr

end ServiceMesh
