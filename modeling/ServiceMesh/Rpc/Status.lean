-- The status that a remote call ends with, and how failures travel as statuses.
import ServiceMesh.Failure.Basic
import ServiceMesh.Telemetry.Note
import ServiceMesh.Text.Integer

namespace ServiceMesh.Rpc

inductive Code where
  | ok
  | cancelled
  | unknown
  | invalidArgument
  | deadlineExceeded
  | notFound
  | alreadyExists
  | permissionDenied
  | resourceExhausted
  | failedPrecondition
  | aborted
  | outOfRange
  | unimplemented
  | internal
  | unavailable
  | dataLoss
  | unauthenticated
  deriving DecidableEq, Repr

/-- The codes in the order of their numbers, from 0. -/
def Code.all : List Code :=
  [.ok, .cancelled, .unknown, .invalidArgument, .deadlineExceeded, .notFound, .alreadyExists,
    .permissionDenied, .resourceExhausted, .failedPrecondition, .aborted, .outOfRange,
    .unimplemented, .internal, .unavailable, .dataLoss, .unauthenticated]

/-- The code of a number; a number beyond the codes is `unknown`. -/
def Code.ofNumber (n : Int) : Code :=
  if 0 ≤ n then Code.all.getD n.toNat .unknown else .unknown

def Code.name : Code → String
  | .ok => "Ok"
  | .cancelled => "Cancelled"
  | .unknown => "Unknown"
  | .invalidArgument => "InvalidArgument"
  | .deadlineExceeded => "DeadlineExceeded"
  | .notFound => "NotFound"
  | .alreadyExists => "AlreadyExists"
  | .permissionDenied => "PermissionDenied"
  | .resourceExhausted => "ResourceExhausted"
  | .failedPrecondition => "FailedPrecondition"
  | .aborted => "Aborted"
  | .outOfRange => "OutOfRange"
  | .unimplemented => "Unimplemented"
  | .internal => "Internal"
  | .unavailable => "Unavailable"
  | .dataLoss => "DataLoss"
  | .unauthenticated => "Unauthenticated"

structure Status where
  code : Code
  message : String
  /-- The text of the `retry-after` entry beside the status. -/
  retryAfter : Option String := none
  deriving DecidableEq, Repr

end ServiceMesh.Rpc

namespace ServiceMesh.Failure

open Rpc

/-- The status that a failure travels as. A fault of the server tells its category only. -/
def status : Failure → Status
  | .invalid vs => ⟨.invalidArgument, "Validation error: " ++ violationsText vs, none⟩
  | .badRequest t => ⟨.invalidArgument, t.shown, none⟩
  | .notFound t => ⟨.notFound, t.shown, none⟩
  | .unauthorized t => ⟨.unauthenticated, t.shown, none⟩
  | .conflict t => ⟨.alreadyExists, t.shown, none⟩
  | .tooManyRequests message seconds =>
    ⟨.resourceExhausted, message, seconds.map fun s => toString s.toNat⟩
  | .internal _ => ⟨.internal, "Internal server error", none⟩
  | .badGateway message => ⟨.unavailable, "Bad gateway: " ++ message, none⟩
  | .unavailable message => ⟨.unavailable, message, none⟩
  | .database _ => ⟨.internal, "Database error", none⟩
  | .cache _ => ⟨.internal, "Cache error", none⟩
  | .token f => ⟨.unauthenticated, "Invalid token: " ++ f.message, none⟩
  | .configuration _ => ⟨.internal, "Configuration error", none⟩

/-- What is noted when a failure leaves as a status: all that the status keeps back. -/
def statusNotes : Failure → List Note
  | .internal t => [.log .error "Internal error" [("error", .text t.shown)]]
  | .database t => [.log .error "Database error" [("error", .text t.shown)]]
  | .cache f => [.log .error "Redis error" [("error", .text f.message)]]
  | .configuration t => [.log .error "Configuration error" [("error", .text t.shown)]]
  | _ => []

/-- The failure that a received status stands for. -/
def ofStatus (s : Status) : Failure :=
  match s.code with
  | .invalidArgument | .failedPrecondition | .outOfRange => .badRequest s.message
  | .notFound => .notFound s.message
  | .unauthenticated | .permissionDenied => .unauthorized s.message
  | .alreadyExists => .conflict s.message
  | .resourceExhausted =>
    .tooManyRequests s.message <| s.retryAfter.bind fun t =>
      match Text.readNatural 64 t with
      | .ok n => some (UInt64.ofNat n)
      | .error _ => none
  | .unavailable => .unavailable s.message
  | .deadlineExceeded | .cancelled | .aborted => .badGateway ("request failed: " ++ s.message)
  | .unimplemented => .internal ("Not implemented: " ++ s.message : String)
  | .internal | .unknown | .dataLoss => .internal s.message
  | .ok => .internal "Unexpected OK status as error"

end ServiceMesh.Failure
