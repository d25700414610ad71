-- The entries that travel beside a remote call, and what a server notes of them.
import ServiceMesh.Http.Request

namespace ServiceMesh.Rpc

/-- Entries by name, lower case; one value for each name. -/
abbrev Metadata := List (String × String)

namespace Metadata

def get? (m : Metadata) (name : String) : Option String := (m.find? (·.1 == name)).map (·.2)

/-- Sets an entry, unless the value cannot travel. -/
def set (m : Metadata) (name value : String) : Metadata :=
  if Http.isHeaderText value then m.filter (·.1 != name) ++ [(name, value)] else m

/-- What a server notes of every call before it looks at the message. -/
def receivedNotes (m : Metadata) : List Note :=
  .counted "grpc_requests_total" []
    :: ((m.get? "traceparent").map fun t =>
        Note.log .debug "Received trace context" [("traceparent", .text t)]).toList
    ++ ((m.get? "x-request-id").map fun t =>
        Note.log .debug "Received request id" [("request_id", .text t)]).toList

end Metadata

end ServiceMesh.Rpc
