-- Whether a host can be reached.
import ServiceMesh.Http.Address

namespace ServiceMesh.Web

inductive ReachFault where
  /-- No way leads to its address. -/
  | network
  /-- Its name has no address. -/
  | name
  deriving DecidableEq, Repr

namespace ReachFault

def cause : ReachFault → String
  | .network => "Network is unreachable (os error 101)"
  | .name => "failed to lookup address information: Temporary failure in name resolution"

/-- What a remote call tells of the fault. -/
def brief : ReachFault → String
  | .network => "tcp connect error"
  | .name => "dns error"

end ReachFault

/-- Whoever reaches hosts: the fault for a host that is not reached. -/
abbrev Reach := (host : String) → Option ReachFault

def isAddress (host : String) : Bool :=
  let inner := match host.toList with
    | '[' :: cs => if cs.getLast? = some ']' then cs.dropLast else cs
    | cs => cs
  (Http.IpAddress.parse? (String.ofList inner)).isSome

def Reach.nowhere : Reach := fun host =>
  some (if isAddress host || host == "localhost" then .network else .name)

end ServiceMesh.Web
