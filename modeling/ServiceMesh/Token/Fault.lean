-- Why a token is refused.
import ServiceMesh.Encoding.Base64

namespace ServiceMesh

inductive TokenFault where
  | malformed
  | signature
  | expired
  | immature
  | algorithm
  | audience
  | missingClaim (name : String)
  | base64 (fault : Encoding.Base64Fault)
  | json (text : String)
  deriving DecidableEq

def TokenFault.message : TokenFault → String
  | .malformed => "InvalidToken"
  | .signature => "InvalidSignature"
  | .expired => "ExpiredSignature"
  | .immature => "ImmatureSignature"
  | .algorithm => "InvalidAlgorithm"
  | .audience => "InvalidAudience"
  | .missingClaim name => "Missing required claim: " ++ name
  | .base64 fault => "Base64 error: " ++ fault.message
  | .json text => "JSON error: " ++ text

/-- The fault of a name; any other name is that of a missing claim. -/
def TokenFault.named (name : String) : TokenFault :=
  let plain : List TokenFault :=
    [.malformed, .signature, .expired, .immature, .algorithm, .audience]
  (plain.find? (·.message == name)).getD (.missingClaim name)

end ServiceMesh
