-- Tokens as JSON, for tools that look on.
import ServiceMesh.Token.Signed

namespace ServiceMesh.Token

def resultReport (f : Claims → Json) : Except TokenFault Claims → Json
  | .ok c => .object [("ok", f c)]
  | .error e => .object [("err", .text e.message)]

def validateReport (key : Key) (now : Int) (token : String) : Json :=
  resultReport (fun c => .object [("username", .text c.username), ("exp", .int c.exp)])
    (validate key now token)

/-- What a token claims, whether it is good or not. -/
def claimed? (token : String) : Option Claims := do
  let (message, _) ← cutAtLastPoint token
  let (_, payload) ← cutAtLastPoint message
  (readClaims (← (bytesOfPart payload).toOption)).toOption

/-- A token that is given out, by its header and by what it claims. -/
def issueReport (key : Key) (now : Int) (username : String) : Except Crash Json := do
  let token ← issue key now username
  let claims := (claimed? token).getD ⟨"", 0⟩
  let names := (claims.json.fields.map (·.1)).mergeSort
  return .object [("alg", header.valueAt "alg"), ("typ", header.valueAt "typ"),
    ("username", .text claims.username), ("claims", .array (names.map .text)),
    ("exp_is_now_plus_expiry", .bool (claims.exp == now + key.expiry)),
    ("valid", resultReport (.text ·.username) (validate key now token))]

end ServiceMesh.Token
