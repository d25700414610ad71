-- Failures, rejections, statuses, responses and events as JSON, for tools that look on.
import ServiceMesh.Account.User
import ServiceMesh.Domain.Rejection
import ServiceMesh.Rpc.Status
import ServiceMesh.Text.RandomId

namespace ServiceMesh

def Failure.report (f : Failure) : Json :=
  .object ([("kind", .text f.kind), ("display", .text f.display), ("status", .nat f.httpStatus)]
    ++ match f with
      | .tooManyRequests _ s => [("retry_after", Json.ofOption (fun s => .nat s.toNat) s)]
      | _ => [])

def Failure.resultReport : Except Failure Json → Json
  | .ok x => .object [("ok", x)]
  | .error f => .object [("err", f.report)]

def Rpc.Status.report (s : Rpc.Status) : Json :=
  .object ([("code", .text s.code.name), ("message", .text s.message)]
    ++ (s.retryAfter.map fun r => ("retry_after", Json.text r)).toList)

def User.report (u : User) : Json :=
  .object [("id", .text u.id), ("username", .text u.username), ("nickname", .text u.nickname),
    ("password_hash", .text u.passwordHash), ("created_ms", .int u.created), ("again", u.json)]

def Http.Response.report (r : Http.Response) : Json :=
  let headers := r.headers.mergeSort fun a b => a.1 < b.1 || (a.1 == b.1 && a.2 ≤ b.2)
  .object [("status", .nat r.status),
    ("headers", .array (headers.map fun (k, v) => .array [.text k, .text v])),
    ("body", .text r.body)]

def Rejection.report {ε : Type} [Rejection ε] (e : ε) : Json :=
  .object [("variant", .text (Rejection.label e)), ("message", .text (Rejection.message e)),
    ("business", .bool (Rejection.isBusiness e))]

def FieldValue.json : FieldValue → Json
  | .int n => .int n
  | .flag b => .bool b
  | .text s => .text s

def Event.report (e : Event) : Json :=
  .object [("level", .text e.level.name), ("message", .text e.message),
    ("fields", .object (e.fields.map fun (k, v) => (k, v.json)))]

def Note.eventsReport (notes : List Note) : Json := .array ((events notes).map Event.report)

/-- How far notes move each series on. -/
def Note.totalsReport (notes : List Note) : Json :=
  .object ((totals notes).map fun (s, n) => (s.text, .nat n))

end ServiceMesh
