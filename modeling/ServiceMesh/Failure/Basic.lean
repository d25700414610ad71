-- Failures: what keeps an operation from answering at all. A rule that a caller broke is not a
-- failure but an answer, and stands in `Domain`.
import ServiceMesh.Json.Value
import ServiceMesh.Text.Quoted
import ServiceMesh.Token.Fault

namespace ServiceMesh

/-- What went wrong underneath, with the contexts that were put around it, the outermost
last. -/
structure Trouble where
  root : String
  contexts : List String := []
  deriving DecidableEq, Repr

namespace Trouble

/-- Only the outermost context is told. -/
def shown (t : Trouble) : String := t.contexts.getLast?.getD t.root

def within (t : Trouble) (context : String) : Trouble :=
  { t with contexts := t.contexts ++ [context] }

instance : Coe String Trouble := ⟨fun root => ⟨root, []⟩⟩

@[simp] theorem shown_root (s : String) : shown ⟨s, []⟩ = s := rfl

@[simp] theorem shown_within (t : Trouble) (context : String) :
    (t.within context).shown = context := by
  simp [shown, within]

end Trouble

/-- A field whose text is too short or too long. -/
structure Violation where
  field : String
  min? : Option Nat
  max? : Option Nat
  value : String
  deriving DecidableEq, Repr

/-- The limits that a rule has, and the text that breaks it. -/
def Violation.message (v : Violation) : String :=
  let limit (name : String) : Option Nat → List String
    | none => []
    | some n => ["\"" ++ name ++ "\": Number(" ++ toString n ++ ")"]
  let parts := limit "max" v.max? ++ limit "min" v.min?
    ++ ["\"value\": String(" ++ Text.quote v.value ++ ")"]
  v.field ++ ": Validation error: length [\x7b" ++ String.intercalate ", " parts ++ "\x7d]"

/-- All violations, a line each, in the order of the lines. -/
def violationsText (vs : List Violation) : String :=
  String.intercalate "\n" ((vs.map Violation.message).mergeSort (fun a b => a ≤ b))

inductive CacheFault where
  /-- A fault of some kind, described, with a detail if there is one. -/
  | described (description kind : String) (detail? : Option String)
  /-- The connection failed. -/
  | disconnected (cause : String)
  deriving DecidableEq, Repr

def CacheFault.message : CacheFault → String
  | .described description kind none => description ++ "- " ++ kind
  | .described description kind (some detail) => description ++ " - " ++ kind ++ ": " ++ detail
  | .disconnected cause => cause

inductive Failure where
  /-- Fields that break the rules of their request. -/
  | invalid (violations : List Violation)
  | badRequest (trouble : Trouble)
  | notFound (trouble : Trouble)
  | unauthorized (trouble : Trouble)
  | conflict (trouble : Trouble)
  /-- Too many requests, with the seconds to wait if they are known. -/
  | tooManyRequests (message : String) (retryAfter : Option UInt64)
  | internal (trouble : Trouble)
  | badGateway (message : String)
  | unavailable (message : String)
  | database (trouble : Trouble)
  | cache (fault : CacheFault)
  | token (fault : TokenFault)
  | configuration (trouble : Trouble)
  deriving DecidableEq

namespace Failure

def kind : Failure → String
  | .invalid _ => "ValidationError"
  | .badRequest _ => "BadRequest"
  | .notFound _ => "NotFound"
  | .unauthorized _ => "Unauthorized"
  | .conflict _ => "Conflict"
  | .tooManyRequests .. => "TooManyRequests"
  | .internal _ => "InternalError"
  | .badGateway _ => "BadGateway"
  | .unavailable _ => "ServiceUnavailable"
  | .database _ => "DatabaseError"
  | .cache _ => "RedisError"
  | .token _ => "InvalidToken"
  | .configuration _ => "ConfigError"

/-- The failure of a kind that holds no more than words; of an unknown kind, an internal
one. -/
def ofKind (name : String) (t : Trouble) (retryAfter : Option UInt64) : Failure :=
  let plain : List Failure := [.badRequest t, .notFound t, .unauthorized t, .conflict t,
    .tooManyRequests t.root retryAfter, .badGateway t.root, .unavailable t.root, .database t,
    .configuration t, .token (.named t.root)]
  (plain.find? (·.kind == name)).getD (.internal t)

/-- The failure in full, for the process's own log. -/
def display : Failure → String
  | .invalid vs => "Validation error: " ++ violationsText vs
  | .badRequest t => "Bad request: " ++ t.shown
  | .notFound t => "Not found: " ++ t.shown
  | .unauthorized t => "Unauthorized: " ++ t.shown
  | .conflict t => "Conflict: " ++ t.shown
  | .tooManyRequests message _ => "Too many requests: " ++ message
  | .internal t => "Internal server error: " ++ t.shown
  | .badGateway message => "Bad Gateway: " ++ message
  | .unavailable message => "Service Unavailable: " ++ message
  | .database t => "Database error: " ++ t.shown
  | .cache f => "Redis error: " ++ f.message
  | .token f => "Invalid token: " ++ f.message
  | .configuration t => "Configuration error: " ++ t.shown

def httpStatus : Failure → Nat
  | .invalid _ => 422
  | .badRequest _ => 400
  | .notFound _ => 404
  | .unauthorized _ | .token _ => 401
  | .conflict _ => 409
  | .tooManyRequests .. => 429
  | .badGateway _ => 502
  | .unavailable _ => 503
  | .internal _ | .database _ | .cache _ | .configuration _ => 500

/-- The message for the client and, where there are any, details. -/
def publicParts : Failure → String × Option String
  | .invalid vs => ("Validation error", some (violationsText vs))
  | .badRequest t | .notFound t | .unauthorized t | .conflict t => (t.shown, none)
  | .tooManyRequests message _ => (message, none)
  | .internal _ => ("Internal server error", none)
  | .badGateway message => ("Bad Gateway: " ++ message, none)
  | .unavailable message => ("Service unavailable", some message)
  | .database t => ("Database error", some t.shown)
  | .cache f => ("Cache error", some f.message)
  | .token f => ("Invalid token", some f.message)
  | .configuration t => ("Configuration error", some t.shown)

def retryAfter? : Failure → Option UInt64
  | .tooManyRequests _ seconds => seconds
  | _ => none

end Failure

end ServiceMesh
