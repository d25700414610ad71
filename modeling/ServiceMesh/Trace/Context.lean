-- The place of a call in a trace, as it travels with the call: the trace, the span that
-- calls, flags, and what vendors add.
import ServiceMesh.Rpc.Metadata

namespace ServiceMesh.Trace

/-- A place in a trace. Ids are numbers; 0 is no id. -/
structure Context where
  traceId : Nat
  spanId : Nat
  flags : Nat
  state : List (String × String) := []
  deriving DecidableEq, Repr

/-- Hexadecimal with leading zeros. -/
def hex (width n : Nat) : String :=
  let ds := Nat.toDigits 16 n
  String.ofList (List.replicate (width - ds.length) '0' ++ ds)

/-- Whether a vendor's key may stand in a trace state: lower-case letters, digits and a few
signs, with one `@` at most, near the end. -/
def validKey (key : String) : Bool :=
  let plain (c : Char) : Bool := c.isLower || c.isDigit
  let cs := key.toList
  let vendor := (cs.dropWhile (· ≠ '@')).drop 1
  cs.length ≤ 256
    && cs.all (fun c => plain c || ['_', '-', '*', '/', '@'].contains c)
    && cs.head?.all plain
    && (!cs.contains '@' || (vendor.length ≤ 13 && !vendor.contains '@' && vendor.head?.all plain))

def validValue (value : String) : Bool :=
  value.utf8ByteSize ≤ 256 && value.toList.all fun c => c ≠ ',' && c ≠ '='

/-- The entries of vendors, all of them or none: one that is not valid voids them all. -/
def stateOf (entries : List (String × String)) : List (String × String) :=
  if entries.all fun (k, v) => validKey k && validValue v then entries else []

namespace Context

def isValid (c : Context) : Bool := c.traceId ≠ 0 && c.spanId ≠ 0

/-- The context of a new span. A parent with neither id is no parent. A span that is not
sampled carries no flags and no entries. -/
def child (parent : Option Context) (newTrace newSpan : Nat) (sampled : Bool) : Context :=
  let parent := parent.filter fun p => p.traceId ≠ 0 || p.spanId ≠ 0
  let traceId := (parent.map (·.traceId)).getD newTrace
  if sampled then
    ⟨traceId, newSpan, ((parent.map (·.flags)).getD 0) ||| 1, (parent.map (·.state)).getD []⟩
  else ⟨traceId, newSpan, 0, []⟩

def traceparent (c : Context) : String :=
  "00-" ++ hex 32 c.traceId ++ "-" ++ hex 16 c.spanId ++ "-" ++ hex 2 c.flags

def tracestate (c : Context) : String :=
  ",".intercalate (c.state.map fun (k, v) => k ++ "=" ++ v)

/-- Attaches the context to a call. One that is not valid is not attached. -/
def attach (c : Context) (m : Rpc.Metadata) : Rpc.Metadata :=
  if c.isValid then
    let m := m.set "traceparent" c.traceparent
    if c.tracestate.isEmpty then m else m.set "tracestate" c.tracestate
  else m

end Context

/-- Attaches what every outgoing call carries: the current span, and the id of the request
being served. -/
def propagate (span : Option Context) (requestId : Option String) (m : Rpc.Metadata) :
    Rpc.Metadata :=
  let m := match span with
    | some c => c.attach m
    | none => m
  match requestId with
  | some id => m.set "x-request-id" id
  | none => m

end ServiceMesh.Trace
