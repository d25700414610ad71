-- HTTP requests, and what is read out of them: a bearer token, a JSON body, an id.
import ServiceMesh.Http.MediaType
import ServiceMesh.Http.Response
import ServiceMesh.Json.Shape
import ServiceMesh.Telemetry.Act

namespace ServiceMesh.Http

structure Request where
  method : String
  path : String
  query : Option String := none
  /-- Names are lower case; a name may come more than once. -/
  headers : List (String × String) := []
  body : List UInt8 := []

/-- Whether a header's value is text: printable ASCII and tabs. -/
def isHeaderText (s : String) : Bool :=
  s.toList.all fun c => c = '\t' || (32 ≤ c.toNat && c.toNat < 127)

namespace Request

/-- The path and the query of a target. A fragment is no part of either. -/
def cutTarget (target : String) : String × Option String :=
  let cs := target.toList.takeWhile (· ≠ '#')
  let path := String.ofList (cs.takeWhile (· ≠ '?'))
  match cs.dropWhile (· ≠ '?') with
  | [] => (path, none)
  | _ :: query => (path, some (String.ofList query))

def values (r : Request) (name : String) : List String :=
  (r.headers.filter (·.1 == name)).map (·.2)

def header? (r : Request) (name : String) : Option String := (r.values name).head?

def textHeader? (r : Request) (name : String) : Option String :=
  (r.header? name).filter isHeaderText

/-- The request with a single value for a header. -/
def setHeader (r : Request) (name value : String) : Request :=
  { r with headers := r.headers.filter (·.1 != name) ++ [(name, value)] }

/-- The token behind `Bearer` in the first authorization header. The word may be in any case,
and blanks in front of the token are no part of it. -/
def bearer? (r : Request) : Option String := do
  let value ← r.textHeader? "authorization"
  let cs := value.toList
  let scheme := String.ofList (cs.take 6)
  if Text.lowerAscii scheme == "bearer" && cs[6]? == some ' ' then
    some (String.ofList ((cs.drop 7).dropWhile Text.isBlank))
  else none

end Request

/-! ## JSON bodies -/

inductive BodyFault where
  /-- Nobody said that the body is JSON. -/
  | mediaType
  | tooLarge
  /-- The body is no JSON text. -/
  | parsing (detail : String)
  /-- The body is JSON, of another shape. -/
  | shape (detail : String)
  deriving DecidableEq, Repr

namespace BodyFault

def summary : BodyFault → String
  | .mediaType => "Expected request with `Content-Type: application/json`"
  | .tooLarge => "Failed to buffer the request body"
  | .parsing _ => "Failed to parse the request body as JSON"
  | .shape _ => "Failed to deserialize the JSON body into the target type"

def status : BodyFault → Nat
  | .mediaType => 415
  | .tooLarge => 413
  | .parsing _ => 400
  | .shape _ => 422

def detail? : BodyFault → Option String
  | .mediaType => none
  | .tooLarge => some "length limit exceeded"
  | .parsing detail | .shape detail => some detail

def response (f : BodyFault) : Response :=
  .plain f.status (f.summary ++ (f.detail?.map (": " ++ ·)).getD "")

/-- The fault as a failure, in general words only. -/
def failure (f : BodyFault) : Failure := .badRequest ("Json parse error: " ++ f.summary : String)

end BodyFault

/-- The greatest size of a body, in bytes. -/
def maxBody : Nat := 2097152

/-- Reads a value from the front of a JSON body. -/
def Request.json {α : Type} (r : Request) (reader : Json.Reader α) : Except BodyFault α :=
  if !((r.textHeader? "content-type").any saysJson) then .error .mediaType
  else if maxBody < r.body.length then .error .tooLarge
  else
    (Json.Reader.fromFront reader r.body).mapError fun f =>
      if f.cause.isData then .shape (f.located r.body) else .parsing (f.located r.body)

/-! ## The id of a request -/

/-- The id of a request: the first one that came with it, if it is text and not empty, else a
fresh one. -/
def requestId (fresh : String) (r : Request) : String :=
  match (r.textHeader? "x-request-id").filter (!·.isEmpty) with
  | some id => id
  | none => fresh

/-- Serves a request under its id: the work sees the id on the request, and the response
carries it. -/
def withRequestId {σ : Type} (fresh : String) (work : Request → String → Act σ Response)
    (r : Request) : Act σ Response := do
  let id := requestId fresh r
  let response ← work (r.setHeader "x-request-id" id) id
  return { response with
    headers := response.headers.filter (·.1 != "x-request-id") ++ [("x-request-id", id)] }

end ServiceMesh.Http
