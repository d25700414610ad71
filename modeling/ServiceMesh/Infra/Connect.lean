-- Connecting to the stores that are configured: the document store, the cache and the record
-- store, in this order. The first one that cannot be had ends it.
import ServiceMesh.Infra.Health
import ServiceMesh.Infra.MongoAddress
import ServiceMesh.Infra.RecordFault
import ServiceMesh.Infra.StoreUrl
import ServiceMesh.Settings.Process
import ServiceMesh.Telemetry.Act
import ServiceMesh.Web.Reach

namespace ServiceMesh.Infra

variable {σ : Type}

/-- The document store answers to nobody until it is asked; only its address is read. -/
def connectMongo (s : MongoSettings) : Act σ (Except Failure Handle) := do
  Act.note [.log .info "Connecting to MongoDB"]
  match MongoPlaces.parse s.uri with
  | .error fault =>
    let text := "Kind: An invalid argument was provided: " ++ fault.message
      ++ ", labels: \x7b\x7d"
    Act.note [.log .error ("Failed to connect to MongoDB: " ++ text)]
    return .error (.database (text : String))
  | .ok _ =>
    Act.note [.log .info "Connected to MongoDB" [("database", .text s.database)]]
    return .ok (.documents none)

def cacheHost (address : String) : Except CacheFault String :=
  let fault (description : String) : CacheFault :=
    .described description "InvalidClientConfig" none
  match StoreUrl.parse address with
  | .error _ => .error (fault "Redis URL did not parse")
  | .ok url =>
    match url.scheme with
    | "redis" =>
      match url.host? with
      | none => .error (fault "Missing hostname")
      | some host =>
        let number := String.ofList ((url.path.toList.dropWhile (· = '/')).reverse.dropWhile
          (· = '/')).reverse
        if number.isEmpty || (Text.readInteger (.signed 64) number).toBool then .ok host
        else .error (fault "Invalid database number")
    | "rediss" =>
      .error (fault (if url.host?.isNone then "Missing hostname"
        else "can\x27t connect with TLS, the feature is not enabled"))
    | "unix" | "redis+unix" => .error (.disconnected "No such file or directory (os error 2)")
    | _ => .error (fault "Redis URL did not parse")

def connectCache (reach : Web.Reach) (address : String) : Act σ (Except Failure Handle) := do
  Act.note [.log .info "Connecting to Redis"]
  match cacheHost address with
  | .error fault => return .error (.cache fault)
  | .ok host =>
    match reach host with
    | some fault =>
      Act.note [.log .error ("Failed to get Redis connection manager: " ++ fault.cause)]
      return .error (.cache (.disconnected fault.cause))
    | none =>
      Act.note [.log .info "Connected to Redis"]
      return .ok (.cache none)

/-- The host of a record store: this one, unless the address says otherwise. -/
def recordHost (address : String) : Except RecordFault String :=
  match StoreUrl.parse address with
  | .error fault => .error (.configuration fault.message)
  | .ok url => .ok (url.host?.getD "localhost")

def connectRecords (reach : Web.Reach) (address : String) : Act σ (Except Failure Handle) := do
  Act.note [.log .info "Connecting to MySQL"]
  let failed (fault : RecordFault) : Except Failure Handle :=
    .error (.database ("Failed to connect: " ++ fault.message : String))
  match recordHost address with
  | .error fault => return failed fault
  | .ok host =>
    match reach host with
    | some fault => return failed (.connection fault.cause)
    | none =>
      Act.note [.log .info "MySQL connection pool established"]
      return .ok (.records none)

/-- One store more, if it is configured and all went well so far. -/
def also {α : Type} (connect : α → Act σ (Except Failure Handle)) (setting : Option α)
    (handles : List Handle) : Act σ (Except Failure (List Handle)) :=
  match setting with
  | none => return .ok handles
  | some s => do return (← connect s).map fun h => handles ++ [h]

def connect (reach : Web.Reach) (s : StoreSettings) : Act σ (Except Failure (List Handle)) :=
  ((also connectMongo s.mongodb []).andThen (also (connectCache reach) s.redis)).andThen
    (also (connectRecords reach) s.mysql)

/-- The document store of a process: the name of its database. -/
def mongoDatabase (s : StoreSettings) : Except Failure String :=
  match s.mongodb with
  | some mongo => .ok mongo.database
  | none => .error (.configuration ("MongoDB is not configured" : String))

end ServiceMesh.Infra
