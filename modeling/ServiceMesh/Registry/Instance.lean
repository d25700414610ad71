-- Instances of services, as they are announced and found.
import ServiceMesh.Json.Shape

namespace ServiceMesh

structure Instance where
  id : String
  /-- The service that this is an instance of. -/
  name : String
  host : String
  /-- The port for HTTP; health checks go there. -/
  port : Nat
  healthCheckUrl : Option String := none
  /-- Further data, by key in ascending order. -/
  data : List (String × String) := []
  deriving DecidableEq, Repr

namespace Instance

def putData (key value : String) : List (String × String) → List (String × String)
  | [] => [(key, value)]
  | (k, v) :: rest =>
    if key < k then (key, value) :: (k, v) :: rest
    else if key = k then (key, value) :: rest
    else (k, v) :: putData key value rest

/-- Further data out of entries in any order; the last of a key counts. -/
def dataOf (entries : List (String × String)) : List (String × String) :=
  entries.foldl (fun data (k, v) => putData k v data) []

/-- The key under which the port for remote calls is announced. -/
def grpcPortKey : String := "grpc_port"

def data? (i : Instance) (key : String) : Option String :=
  (i.data.find? (·.1 == key)).map (·.2)

/-- The host and the port for HTTP. -/
def address (i : Instance) : String := i.host ++ ":" ++ toString i.port

/-- The port for remote calls: the one announced, if it is one, else the port for HTTP. -/
def grpcPort (i : Instance) : Nat :=
  match (i.data? grpcPortKey).map (Text.readNatural 16) with
  | some (.ok port) => port
  | _ => i.port

/-- The host and the port for remote calls. -/
def grpcPlace (i : Instance) : String := i.host ++ ":" ++ toString i.grpcPort

def grpcUri (i : Instance) : String := "http://" ++ i.grpcPlace

/-- The instance that a process announces: with a health check over HTTP, and with its port
for remote calls. -/
def announced (id name host healthPath : String) (httpPort grpcPort : Nat) : Instance :=
  let path := String.ofList (healthPath.toList.dropWhile (· = '/'))
  ⟨id, name, host, httpPort,
    some ("http://" ++ host ++ ":" ++ toString httpPort ++ "/" ++ path),
    [(grpcPortKey, toString grpcPort)]⟩

/-! ## JSON -/

def dataJson (data : List (String × String)) : Json :=
  .object (data.map fun (k, v) => (k, .text v))

def json (i : Instance) : Json :=
  .object [("id", .text i.id), ("name", .text i.name), ("host", .text i.host),
    ("port", .nat i.port), ("health_check_url", Json.ofOption .text i.healthCheckUrl),
    ("meta", dataJson i.data)]

open Json Json.Reader

def portNumber : Reader Json := .int <$> integer (.unsigned 16) "u16"

def texts : Reader Json := .object <$> table (.text <$> text)

def fields : List Field :=
  let str (name : String) : Field := ⟨name, .text <$> text, .refused⟩
  [str "id", str "name", str "host", ⟨"port", portNumber, .refused⟩,
    ⟨"health_check_url", (Json.ofOption .text) <$> optional text, .null⟩,
    ⟨"meta", texts, .standsFor (.object [])⟩]

def entriesOf (j : Json) : List (String × String) :=
  j.fields.filterMap fun (k, v) => v.text?.map fun s => (k, s)

def ofJson (s : String) : Except String Instance :=
  let bytes := s.toUTF8.toList
  match fromAll (record "ServiceInstance" fields) bytes with
  | .ok j =>
    .ok ⟨j.textAt "id", j.textAt "name", j.textAt "host", j.natAt "port" 0,
      j.textAt? "health_check_url", dataOf (entriesOf ((j.get? "meta").getD .null))⟩
  | .error f => .error (f.message bytes)

/-! ## Order -/

/-- Instances in ascending order of their ids; equal ids keep their order. -/
def sorted (is : List Instance) : List Instance := is.mergeSort fun a b => a.id ≤ b.id

end Instance

end ServiceMesh
