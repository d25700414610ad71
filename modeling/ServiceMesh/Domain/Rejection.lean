-- Rejections: answers that tell a caller which rule the call broke. Between processes a
-- rejection travels as its message, and no message means success.
import ServiceMesh.Http.Response

namespace ServiceMesh

/-- A kind of rejection: the known ones, and one that wraps a message from elsewhere. -/
class Rejection (ε : Type) where
  /-- The rejections that have a message of their own. -/
  known : List ε
  message : ε → String
  /-- A rejection that another process told in words that are not known here. -/
  remote : String → ε
  /-- Whether the caller broke a rule. -/
  isBusiness : ε → Bool
  /-- The name of the kind, as an answer shows it. -/
  label : ε → String

namespace Rejection

variable {ε α : Type} [Rejection ε]

def ofMessage? (message : String) : Option ε :=
  (known : List ε).find? fun e => Rejection.message e == message

/-- The message that a rejection travels as; empty for none. -/
def encode (e : Option ε) : String := (e.map message).getD ""

/-- The rejection that a message stands for; none if it is empty. -/
def decode (text : String) : Option ε :=
  if text.isEmpty then none else some ((ofMessage? text).getD (remote text))

/-- A broken rule is the caller's doing; a rejection in unknown words is not. -/
def httpStatus (e : ε) : Nat := if isBusiness e then 400 else 500

def response (e : ε) : Http.Response :=
  .json (httpStatus e) (.object [("error", .text (message e))])

def responseNotes (e : ε) : List Note :=
  if 500 ≤ httpStatus e then [.log .error "Request failed" [("error", .text (message e))]] else []

/-- The response to a call: the value's body, or the rejection. -/
def answer (body : α → Json) : Except ε α → Http.Response
  | .ok value => .json 200 (body value)
  | .error e => response e

def answerNotes : Except ε α → List Note
  | .ok _ => []
  | .error e => responseNotes e

end Rejection

/-! ## The rejections of the three services -/

inductive AddRejection where
  | twoZeroes
  | overflow
  | tooLong
  | remote (message : String)
  deriving DecidableEq, Repr

inductive TextRejection where
  | empty
  | remote (message : String)
  deriving DecidableEq, Repr

inductive UserRejection where
  | usernameExists
  | notFound
  | wrongPassword
  | mismatch
  | invalidToken
  | remote (message : String)
  deriving DecidableEq, Repr

instance : Rejection AddRejection where
  known := [.twoZeroes, .overflow, .tooLong]
  message
    | .twoZeroes => "can't sum two zeroes"
    | .overflow => "integer overflow"
    | .tooLong => "result exceeds maximum size"
    | .remote text => text
  remote := .remote
  isBusiness
    | .remote _ => false
    | _ => true
  label
    | .twoZeroes => "TwoZeroes"
    | .overflow => "IntOverflow"
    | .tooLong => "MaxSizeExceeded"
    | .remote _ => "Remote"

instance : Rejection TextRejection where
  known := [.empty]
  message
    | .empty => "Empty string"
    | .remote text => text
  remote := .remote
  isBusiness
    | .remote _ => false
    | _ => true
  label
    | .empty => "Empty"
    | .remote _ => "Remote"

instance : Rejection UserRejection where
  known := [.usernameExists, .notFound, .wrongPassword, .mismatch, .invalidToken]
  message
    | .usernameExists => "username existed"
    | .notFound => "user not found"
    | .wrongPassword => "wrong password"
    | .mismatch => "username or password not match"
    | .invalidToken => "invalid token"
    | .remote text => text
  remote := .remote
  isBusiness
    | .remote _ => false
    | _ => true
  label
    | .usernameExists => "UsernameExists"
    | .notFound => "NotFound"
    | .wrongPassword => "WrongPassword"
    | .mismatch => "UsernameOrPasswordMismatch"
    | .invalidToken => "InvalidToken"
    | .remote _ => "Remote"

end ServiceMesh
