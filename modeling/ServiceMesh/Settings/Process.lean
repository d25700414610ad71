-- The settings of the four processes, section by section.
import ServiceMesh.Gateway.Rules
import ServiceMesh.Service.Operation
import ServiceMesh.Settings.File

namespace ServiceMesh

/-! ## Ports -/

namespace Workplace

/-- The port that a process serves HTTP at: `PORT` comes first, then `APP__PORT`, then the
file, then the default. -/
def port (w : Workplace) (default : Nat) : Except Failure Nat :=
  let env := w.extended
  let layered : Except SettingsFault Nat := do
    -- What is laid later covers what was laid before.
    let l := Setting.lay [] "port" (.int default) none
    let l := match ← Setting.ofFiles w.files with
      | some (name, settings) => Setting.layAll l settings name
      | none => l
    Setting.port (Setting.layAll l (Setting.ofEnvironment env) "the environment")
  match layered with
  | .error f => .error (.configuration f.message)
  | .ok port => env.parsed "PORT" (Text.asNatural 16) port

end Workplace

/-- The port for remote calls: the one next to that for HTTP, unless the environment says
otherwise. Port 0 stays 0. -/
def Environment.grpcPort (env : Environment) (port : Nat) : Except Failure Nat :=
  env.parsed "GRPC_PORT" (Text.asNatural 16) (if port = 0 then 0 else min (port + 1) 65535)

/-! ## Sections -/

structure ServiceSettings where
  name : String
  host : String
  instanceId : String
  deriving DecidableEq, Repr

structure RegistrySettings where
  /-- Without an address there is no registry. -/
  consulUrl : Option String
  healthCheckPath : String
  deriving DecidableEq, Repr

structure TelemetrySettings where
  logLevel : String
  otlpEndpoint : Option String
  deriving DecidableEq, Repr

structure MongoSettings where
  uri : String
  database : String
  deriving DecidableEq, Repr

structure StoreSettings where
  mongodb : Option MongoSettings
  redis : Option String
  mysql : Option String
  deriving DecidableEq, Repr

structure TokenSettings where
  secret : String
  expirySeconds : Int
  deriving DecidableEq, Repr

namespace Environment

/-- The part of a generated id that is new each time is `fresh`. -/
def service (env : Environment) (defaultName fresh : String) : Except Failure ServiceSettings := do
  let name ← env.require "SERVICE_NAME" (some defaultName) false
  let host ← env.require "SERVICE_HOST" (some "127.0.0.1") false
  return ⟨name, host, (env.present? "SERVICE_INSTANCE_ID").getD (name ++ "-" ++ fresh)⟩

def registry (env : Environment) : RegistrySettings :=
  ⟨env.present? "CONSUL_URL", (env.present? "HEALTH_CHECK_PATH").getD "health"⟩

def telemetry (env : Environment) : TelemetrySettings :=
  ⟨(env.present? "LOG_LEVEL").getD "info", env.present? "OTLP_ENDPOINT"⟩

def stores (env : Environment) (defaultDatabase : String) : StoreSettings :=
  { mongodb := (env.present? "MONGODB_URI").map fun uri =>
      ⟨uri, (env.present? "MONGODB_DATABASE").getD defaultDatabase⟩
    redis := env.present? "REDIS_URL"
    mysql := env.present? "MYSQL_URL" }

def endpoint (env : Environment) : Except Failure EndpointConfig := do
  let rate ← env.parsed "RATE_LIMIT_PER_SECOND" (Text.asNatural 32) 100
  let maxFailures ← env.parsed "BREAKER_MAX_FAILURES" (Text.asNatural 32) 5
  let openSeconds ← env.parsed "BREAKER_OPEN_SECONDS" (Text.asNatural 64) 30
  return ⟨rate, maxFailures, openSeconds⟩

/-- Real work needs a secret of its own. -/
def token (env : Environment) : Except Failure TokenSettings := do
  let secret ← env.require "JWT_SECRET" (some "dev-only-jwt-secret") env.isProd
  return ⟨secret, ← env.parsed "JWT_EXPIRY_SECONDS" (Text.asInteger (.signed 64)) 3600⟩

/-- The origins that browsers may call from, with commas between. -/
def corsOrigins (env : Environment) : Except Failure (List String) := do
  let text ← env.require "CORS_ALLOWED_ORIGINS" (some "http://localhost:3000") false
  return ((text.splitOn ",").map Text.trim).filter fun o => !o.isEmpty

def retry (env : Environment) : Except Failure Retry := do
  let max ← env.parsed "GATEWAY_RETRY_MAX" (Text.asNatural 64) 3
  let timeout ← env.parsed "GATEWAY_RETRY_TIMEOUT_MS" (Text.asNatural 64) 500
  return ⟨max, Span.ofMillis timeout⟩

def ipLimit (env : Environment) : Except Failure Nat :=
  env.parsed "GATEWAY_IP_RATE_LIMIT_PER_MINUTE" (Text.asNatural 32) 600

end Environment

/-! ## Processes -/

structure ServerSettings where
  port : Nat
  grpcPort : Nat
  service : ServiceSettings
  registry : RegistrySettings
  telemetry : TelemetrySettings
  endpoint : EndpointConfig
  deriving DecidableEq, Repr

structure UserSettings extends ServerSettings where
  stores : StoreSettings
  token : TokenSettings
  deriving DecidableEq, Repr

structure GatewaySettings extends GatewayRules where
  port : Nat
  registry : RegistrySettings
  telemetry : TelemetrySettings
  deriving DecidableEq, Repr

namespace Workplace

def both (w : Workplace) (default : Nat) : Except Failure (Nat × Nat) := do
  let port ← w.port default
  return (port, ← w.extended.grpcPort port)

def server (w : Workplace) (kind : ServiceKind) (fresh : String) (default : Nat) :
    Except Failure ServerSettings := do
  let (port, grpcPort) ← w.both default
  let env := w.extended
  return ⟨port, grpcPort, ← env.service kind.name fresh, env.registry, env.telemetry,
    ← env.endpoint⟩

def add (w : Workplace) (fresh : String) : Except Failure ServerSettings :=
  w.server .add fresh 8081

def text (w : Workplace) (fresh : String) : Except Failure ServerSettings :=
  w.server .text fresh 8082

/-- The service of users. Real work needs a store of its own. -/
def user (w : Workplace) (fresh : String) : Except Failure UserSettings := do
  let (port, grpcPort) ← w.both 8083
  let env := w.extended
  let stores := env.stores ServiceKind.user.name
  if env.isProd && stores.mongodb.isNone then throw (Environment.missing "MONGODB_URI" true)
  let service ← env.service ServiceKind.user.name fresh
  let endpoint ← env.endpoint
  return ⟨⟨port, grpcPort, service, env.registry, env.telemetry, endpoint⟩, stores, ← env.token⟩

/-- The gateway. Real work needs a registry. What concerns the registry and browsers is read
before the file `.env` is. -/
def gateway (w : Workplace) : Except Failure GatewaySettings := do
  let registry := w.environment.registry
  if w.environment.isProd && registry.consulUrl.isNone then
    throw (Environment.missing "CONSUL_URL" true)
  let origins ← w.environment.corsOrigins
  let port ← w.port 9090
  let env := w.extended
  let endpoint ← env.endpoint
  let retry ← env.retry
  return ⟨⟨endpoint, retry, origins, ← env.ipLimit⟩, port, registry, env.telemetry⟩

end Workplace

end ServiceMesh
