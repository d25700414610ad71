-- Signed tokens: three parts with points between, header, claims and signature. A token says
-- who it was given to and until when it is good.
import ServiceMesh.Digest.Sha256
import ServiceMesh.Telemetry.Act
import ServiceMesh.Token.Claims
import ServiceMesh.Token.Header

namespace ServiceMesh.Token

/-- What tokens are signed with, and the seconds that they are good for. -/
structure Key where
  secret : String
  expiry : Int
  deriving DecidableEq, Repr

def part (bytes : List UInt8) : String := Encoding.Alphabet.urlSafe.encode bytes

def jsonPart (j : Json) : String := part j.render.toUTF8.toList

/-- The header of every token given out. -/
def header : Json := .object [("typ", .text "JWT"), ("alg", .text "HS256")]

def sign (secret message : String) : String :=
  part (Digest.hmacSha256 secret.toUTF8.toList message.toUTF8.toList)

def ofClaims (secret : String) (claims : Claims) : String :=
  let message := jsonPart header ++ "." ++ jsonPart claims.json
  message ++ "." ++ sign secret message

def issue (key : Key) (now : Int) (username : String) : Except Crash String :=
  let exp := now + key.expiry
  if -(1 <<< 63 : Nat) ≤ exp ∧ exp < (1 <<< 63 : Nat) then .ok (ofClaims key.secret ⟨username, exp⟩)
  else .error .sumRange

def cutAtLastPoint (s : String) : Option (String × String) :=
  let cs := s.toList.reverse
  let tail := cs.takeWhile (· ≠ '.')
  match cs.dropWhile (· ≠ '.') with
  | [] => none
  | _ :: front => some (String.ofList front.reverse, String.ofList tail.reverse)

def bytesOfPart (s : String) : Except TokenFault (List UInt8) :=
  (Encoding.Alphabet.urlSafe.decode s).mapError .base64

/-- The claims of a token that is good at second `now`. What is looked at, in this order: the
three parts, the header, its algorithm, the signature, the claims, and whether they are good. -/
def validate (key : Key) (now : Int) (token : String) : Except TokenFault Claims := do
  let some (message, signature) := cutAtLastPoint token | .error .malformed
  let some (head, payload) := cutAtLastPoint message | .error .malformed
  let algorithm ← (readHeader (← bytesOfPart head)).mapError .json
  if algorithm ≠ "HS256" then .error .algorithm
  else if signature ≠ sign key.secret message then .error .signature
  else
    let bytes ← bytesOfPart payload
    let claims ← (readClaims bytes).mapError .json
    checkClaims now bytes
    return claims

end ServiceMesh.Token
