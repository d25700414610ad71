-- A client of the Consul agent, which keeps a registry and answers over HTTP.
import ServiceMesh.Registry.Instance
import ServiceMesh.Web.Client

namespace ServiceMesh

structure Consul where
  /-- The address of the agent, without a slash at its end. -/
  base : String
  /-- How long a query may wait for a change, in seconds. -/
  waitSeconds : Nat
  deriving DecidableEq, Repr

namespace Consul

def ofAddress (address : String) (waitMillis : Nat) : Consul :=
  ⟨String.ofList (address.toList.reverse.dropWhile (· = '/')).reverse, max 1 (waitMillis / 1000)⟩

/-- The header in which an answer says how far the registry has come. -/
def indexHeader : String := "X-Consul-Index"

/-! ## Requests -/

def announcement (i : Instance) : Json :=
  .object ([("ID", .text i.id), ("Name", .text i.name), ("Address", .text i.host),
    ("Port", .nat i.port), ("Meta", Instance.dataJson i.data)]
    ++ (i.healthCheckUrl.map fun url =>
      ("Check", Json.object [("HTTP", .text url), ("Interval", .text "15s"),
        ("DeregisterCriticalServiceAfter", .text "30s")])).toList)

def request (c : Consul) (method : Http.Method) (path : String) (query : List (String × String))
    (body : Option Json) : Except Web.Fault Web.Request := do
  let url ← Web.address (c.base ++ path)
  return ⟨method, if method = .get then url.withQuery query else url, body⟩

def registerRequest (c : Consul) (i : Instance) : Except Web.Fault Web.Request :=
  c.request .put "/v1/agent/service/register" [] (some (announcement i))

def deregisterRequest (c : Consul) (id : String) : Except Web.Fault Web.Request :=
  c.request .put ("/v1/agent/service/deregister/" ++ id) [] none

/-- The parameters of a query. One that does not wait names no index. -/
def queryParameters (c : Consul) (passingOnly : Bool) (waitIndex : Nat) : List (String × String) :=
  (if passingOnly then [("passing", "true")] else [])
    ++ (if 0 < waitIndex then
      [("index", toString waitIndex), ("wait", toString c.waitSeconds ++ "s")] else [])

def queryRequest (c : Consul) (service : String) (passingOnly : Bool) (waitIndex : Nat) :
    Except Web.Fault Web.Request :=
  c.request .get ("/v1/health/service/" ++ service) (c.queryParameters passingOnly waitIndex) none

/-! ## Answers -/

open Json Json.Reader

def str (name : String) (absent : Absence := .refused) : Field := ⟨name, .text <$> text, absent⟩

def nodeFields : List Field := [str "Address" (.standsFor (.text ""))]

def serviceFields : List Field :=
  [str "ID", str "Service", str "Address" (.standsFor (.text "")),
    ⟨"Port", Instance.portNumber, .refused⟩,
    ⟨"Meta", (fun m => m.getD .null) <$> optional Instance.texts, .standsFor .null⟩]

def entryFields : List Field :=
  [⟨"Node", record "HealthNode" nodeFields, .refused⟩,
    ⟨"Service", record "HealthService" serviceFields, .refused⟩]

/-- The instance that an entry tells of. A service without an address has that of its node. -/
def instanceOf (entry : Json) : Instance :=
  let node := (entry.get? "Node").getD .null
  let service := (entry.get? "Service").getD .null
  let address := service.textAt "Address"
  { id := service.textAt "ID", name := service.textAt "Service"
    host := if address.isEmpty then node.textAt "Address" else address
    port := service.natAt "Port" 0
    data := Instance.dataOf (Instance.entriesOf ((service.get? "Meta").getD .null)) }

def entries (body : List UInt8) : Except Failure (List Instance) :=
  match fromAll (Reader.list (record "HealthEntry" entryFields)) body with
  | .ok found => .ok (found.map instanceOf)
  | .error f => .error (.badGateway ("invalid Consul health response: " ++ f.message body))

/-- How far the registry has come, by an answer; without a word on it, as far as was asked. -/
def indexOf (reply : Web.Reply) (waitIndex : Nat) : Nat :=
  match (reply.textHeader? indexHeader).map (Text.readNatural 64) with
  | some (.ok index) => index
  | _ => waitIndex

/-! ## Calls -/

/-- Sends what could be made into a request. -/
def send (network : Web.Network) (request : Except Web.Fault Web.Request) :
    Except Failure Web.Reply :=
  match request with
  | .error f => .error (.badGateway f.message)
  | .ok r =>
    match r.send network with
    | .error f => .error (.badGateway f.message)
    | .ok reply => .ok reply

def register (network : Web.Network) (c : Consul) (i : Instance) : Except Failure Unit :=
  (send network (c.registerRequest i)).map fun _ => ()

def deregister (network : Web.Network) (c : Consul) (id : String) : Except Failure Unit :=
  (send network (c.deregisterRequest id)).map fun _ => ()

/-- The instances of a service, and the index to wait for next. -/
def instances (network : Web.Network) (c : Consul) (service : String) (passingOnly : Bool)
    (waitIndex : Nat) : Except Failure (List Instance × Nat) := do
  let reply ← send network (c.queryRequest service passingOnly waitIndex)
  let found ← entries reply.body
  return (found, indexOf reply waitIndex)

end Consul

end ServiceMesh
