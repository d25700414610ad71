-- Settings as JSON, for tools that look on.
import ServiceMesh.Settings.Process

namespace ServiceMesh

def ServiceSettings.json (s : ServiceSettings) : Json :=
  .object [("name", .text s.name), ("host", .text s.host), ("instance_id", .text s.instanceId)]

def RegistrySettings.json (s : RegistrySettings) : Json :=
  .object [("consul_url", Json.ofOption .text s.consulUrl),
    ("health_check_path", .text s.healthCheckPath)]

def TelemetrySettings.json (s : TelemetrySettings) : Json :=
  .object [("log_level", .text s.logLevel), ("otlp_endpoint", Json.ofOption .text s.otlpEndpoint)]

def StoreSettings.json (s : StoreSettings) : Json :=
  let url (u : String) : Json := .object [("url", .text u)]
  .object [("redis", Json.ofOption url s.redis), ("mysql", Json.ofOption url s.mysql),
    ("mongodb", Json.ofOption (fun (m : MongoSettings) =>
      .object [("uri", .text m.uri), ("database", .text m.database)]) s.mongodb)]

def EndpointConfig.json (c : EndpointConfig) : Json :=
  .object [("rate_limit_per_second", .nat c.rate), ("breaker_max_failures", .nat c.maxFailures),
    ("breaker_open_seconds", .nat c.openSeconds)]

def TokenSettings.json (s : TokenSettings) : Json :=
  .object [("secret", .text s.secret), ("expiry_seconds", .int s.expirySeconds)]

def Retry.json (r : Retry) : Json :=
  .object [("max", .nat r.max), ("timeout_ms", .nat (Span.millis r.timeout)),
    ("timeout", .text (Text.spanText r.timeout))]

def ServerSettings.fields (s : ServerSettings) : List (String × Json) :=
  [("port", .nat s.port), ("grpc_port", .nat s.grpcPort), ("service", s.service.json),
    ("registry", s.registry.json), ("telemetry", s.telemetry.json), ("endpoint", s.endpoint.json)]

def UserSettings.json (s : UserSettings) : Json :=
  .object (s.fields ++ [("infra", s.stores.json), ("jwt", s.token.json)])

def GatewaySettings.json (s : GatewaySettings) : Json :=
  .object [("port", .nat s.port), ("registry", s.registry.json),
    ("telemetry", s.telemetry.json), ("endpoint", s.endpoint.json), ("retry", s.retry.json),
    ("cors_allowed_origins", .array (s.corsOrigins.map .text)),
    ("ip_rate_limit_per_minute", .nat s.ipLimit)]

end ServiceMesh
