-- Requests over the web, and what can go wrong with them.
import ServiceMesh.Failure.Basic
import ServiceMesh.Http.Router
import ServiceMesh.Web.Url

namespace ServiceMesh.Web

structure Request where
  method : Http.Method
  url : Url
  /-- The JSON that is sent along. -/
  body : Option Json := none

structure Reply where
  status : Nat
  headers : List (String × String)
  body : List UInt8

namespace Reply

/-- The first header of a name, where its value is plain text. -/
def textHeader? (r : Reply) (name : String) : Option String :=
  match r.headers.find? fun h => Text.lowerAscii h.1 == Text.lowerAscii name with
  | some (_, v) => if v.toList.all fun c => c = '\t' || (32 ≤ c.toNat && c.toNat < 127)
      then some v else none
  | none => none

end Reply

/-- Whoever answers requests; a request that reaches nobody has no reply. -/
abbrev Network := Request → Option Reply

inductive Fault where
  /-- A text that is no address. -/
  | malformed
  | foreignScheme (address : String)
  | unreachable (address : String)
  /-- A reply that says no. -/
  | refused (status : Nat) (address : String)
  deriving DecidableEq, Repr

def statusPhrase (status : Nat) : String :=
  match status with
  | 400 => "Bad Request"
  | 401 => "Unauthorized"
  | 402 => "Payment Required"
  | 403 => "Forbidden"
  | 404 => "Not Found"
  | 405 => "Method Not Allowed"
  | 406 => "Not Acceptable"
  | 407 => "Proxy Authentication Required"
  | 408 => "Request Timeout"
  | 409 => "Conflict"
  | 410 => "Gone"
  | 411 => "Length Required"
  | 412 => "Precondition Failed"
  | 413 => "Payload Too Large"
  | 414 => "URI Too Long"
  | 415 => "Unsupported Media Type"
  | 416 => "Range Not Satisfiable"
  | 417 => "Expectation Failed"
  | 418 => "I\x27m a teapot"
  | 421 => "Misdirected Request"
  | 422 => "Unprocessable Entity"
  | 423 => "Locked"
  | 424 => "Failed Dependency"
  | 425 => "Too Early"
  | 426 => "Upgrade Required"
  | 428 => "Precondition Required"
  | 429 => "Too Many Requests"
  | 431 => "Request Header Fields Too Large"
  | 451 => "Unavailable For Legal Reasons"
  | 500 => "Internal Server Error"
  | 501 => "Not Implemented"
  | 502 => "Bad Gateway"
  | 503 => "Service Unavailable"
  | 504 => "Gateway Timeout"
  | 505 => "HTTP Version Not Supported"
  | 506 => "Variant Also Negotiates"
  | 507 => "Insufficient Storage"
  | 508 => "Loop Detected"
  | 510 => "Not Extended"
  | 511 => "Network Authentication Required"
  | _ => "<unknown status code>"

def Fault.message : Fault → String
  | .malformed => "builder error"
  | .foreignScheme address => "builder error for url (" ++ address ++ ")"
  | .unreachable address => "error sending request for url (" ++ address ++ ")"
  | .refused status address =>
    "HTTP status " ++ (if status < 500 then "client" else "server") ++ " error ("
      ++ toString status ++ " " ++ statusPhrase status ++ ") for url (" ++ address ++ ")"

def address (text : String) : Except Fault Url :=
  match Target.parse? text with
  | none => .error .malformed
  | some (.other text) => .error (.foreignScheme text)
  | some (.web url) => .ok url

/-- Sends a request and waits for a reply that does not say no. -/
def Request.send (network : Network) (r : Request) : Except Fault Reply :=
  match network r with
  | none => .error (.unreachable r.url.text)
  | some reply =>
    if 400 ≤ reply.status then .error (.refused reply.status r.url.text) else .ok reply

end ServiceMesh.Web
