-- How a gateway treats the calls that come through it.
import ServiceMesh.Discovery.Retry
import ServiceMesh.Endpoint.Config

namespace ServiceMesh

structure GatewayRules where
  endpoint : EndpointConfig
  retry : Retry
  /-- The origins whose pages may call. -/
  corsOrigins : List String
  /-- Requests per address and minute; 0 sets no limit. -/
  ipLimit : Nat
  deriving DecidableEq, Repr

end ServiceMesh
