-- The adding service: sums that have to fit 32 bits, and short texts put together.
import ServiceMesh.Service.Operation

namespace ServiceMesh.Adding

def intMax : Int := 2147483647

def intMin : Int := -2147483648

/-- The greatest length of a text put together, in bytes. -/
def maxSize : Nat := 10

/-- `a + b`, within 32 bits. The bounds are moved by `b`, so `a` is compared before anything
is added. -/
def sum (r : Numbers) : Operation.sum.Answer :=
  if r.a = 0 ∧ r.b = 0 then .error .twoZeroes
  else if r.a > intMax - r.b ∨ r.a < intMin - r.b then .error .overflow
  else .ok (r.a + r.b)

def concat (r : Parts) : Operation.concat.Answer :=
  if r.a.utf8ByteSize + r.b.utf8ByteSize > maxSize then .error .tooLong
  else .ok (r.a ++ r.b)

/-- What is counted and logged of a call, in that order. -/
def sumNotes (r : Numbers) : List Note :=
  let asked : List (String × FieldValue) :=
    [("method", .text "sum"), ("a", .int r.a), ("b", .int r.b)]
  match sum r with
  | .ok v =>
    [.counted "integers_summed" [] v.natAbs, .log .info "called" (asked ++ [("v", .int v)])]
  | .error e => [.log .info "called" (asked ++ [("err", .text (Rejection.message e))])]

def concatNotes (r : Parts) : List Note :=
  let asked : List (String × FieldValue) :=
    [("method", .text "concat"), ("a", .text r.a), ("b", .text r.b)]
  match concat r with
  | .ok v =>
    [.counted "characters_concatenated" [] v.utf8ByteSize,
      .log .info "called" (asked ++ [("v", .text v)])]
  | .error e => [.log .info "called" (asked ++ [("err", .text (Rejection.message e))])]

end ServiceMesh.Adding
