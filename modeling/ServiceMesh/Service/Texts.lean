-- The text service: upper case, and the length in bytes.
import ServiceMesh.Service.Operation
import ServiceMesh.Text.Upper

namespace ServiceMesh.Texts

/-- The text in upper case; there is none of an empty text. -/
def uppercase (s : String) : Operation.uppercase.Answer :=
  if s.isEmpty then .error .empty else .ok (Text.upper s)

/-- The length in bytes. -/
def count (s : String) : Nat := s.utf8ByteSize

/-- The length as a call answers it, never above what 64 bits with a sign hold. -/
def counted (s : String) : Operation.count.Answer := .ok (min (count s) (1 <<< 63 - 1) : Nat)

/-- What is counted and logged of a call, in that order. -/
def uppercaseNotes (s : String) : List Note :=
  let asked : List (String × FieldValue) := [("method", .text "uppercase"), ("s", .text s)]
  match uppercase s with
  | .ok v =>
    [.counted "characters_uppercased" [] v.length,
      .log .info "called" (asked ++ [("v", .text v)])]
  | .error e => [.log .info "called" (asked ++ [("err", .text (Rejection.message e))])]

def countNotes (s : String) : List Note :=
  [.counted "characters_counted" [] (count s),
    .log .info "called" [("method", .text "count"), ("s", .text s), ("v", .int (count s))]]

end ServiceMesh.Texts
