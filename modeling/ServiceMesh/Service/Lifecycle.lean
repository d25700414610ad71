-- The life of a process that others call: it announces itself, serves, and takes the
-- announcement back.
import ServiceMesh.Registry.Consul
import ServiceMesh.Registry.Registration

namespace ServiceMesh.Lifecycle

/-- Announces the instance of a process, if there is a registry. A process that cannot be
announced does not serve. -/
def announce (network : Web.Network) (consul : Option Consul) (i : Instance) :
    Except String Unit × List Note :=
  match consul with
  | none => (.ok (), [.log .info "No registry configured, skipping registration"])
  | some consul =>
    match Consul.register network consul i with
    | .ok () => (.ok (), [i.announcedNote])
    | .error f => (.error ("Registration failed: " ++ f.display), [])

/-- Takes the announcement back. Whether that works makes no difference to the end. -/
def withdraw (network : Web.Network) (consul : Option Consul) (i : Instance) : List Note :=
  match consul with
  | none => []
  | some consul =>
    match Consul.deregister network consul i.id with
    | .ok () => [i.withdrawnNote]
    | .error f => [.log .warn ("Failed to deregister: " ++ f.display)]

/-- How a process ends that is stopped while it serves, and what is noted of its life. -/
def run (network : Web.Network) (consul : Option Consul) (i : Instance) :
    Except String Unit × List Note :=
  match announce network consul i with
  | (.ok (), notes) => (.ok (), notes ++ withdraw network consul i)
  | (.error message, notes) => (.error message, notes)

end ServiceMesh.Lifecycle
