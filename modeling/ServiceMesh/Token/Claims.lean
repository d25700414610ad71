-- What a token claims, and which claims are good at an instant.
import ServiceMesh.Json.Shape
import ServiceMesh.Token.Fault

namespace ServiceMesh.Token

open Json Json.Reader

/-- Who the token was given to, and the second up to which it is good. -/
structure Claims where
  username : String
  exp : Int
  deriving DecidableEq, Repr

def Claims.json (c : Claims) : Json :=
  .object [("username", .text c.username), ("exp", .int c.exp)]

def claimsFields : List Field :=
  [⟨"username", .text <$> text, .refused⟩,
    ⟨"exp", .int <$> integer (.signed 64) "i64", .refused⟩]

def readClaims (bytes : List UInt8) : Except String Claims :=
  match fromAll (record "Claims" claimsFields) bytes with
  | .ok j => .ok ⟨j.textAt "username", j.intAt "exp"⟩
  | .error f => .error (f.message bytes)

/-! ## The claims that every token may make

A claim that cannot be read counts as not made. Reading goes on from wherever the attempt came
to its end. -/

/-- What `r` reads, or nothing. -/
def attempt {α : Type} (r : Reader α) : Reader (Option α) := fun s =>
  match r s with
  | .ok a s => .ok (some a) s
  | .error _ s => .ok none s

/-- A number of seconds; a fraction is rounded. -/
def seconds : Reader Json := do
  let b ← token
  if b = 45 || isDigit b then
    match ← number with
    | .int n => if 0 ≤ n then pure (.int n) else fail .invalidNumber
    | .float x =>
      if 0.0 ≤ x && x < 18446744073709551616.0 then pure (.int x.round.toUInt64.toNat)
      else fail .invalidNumber
    | _ => fail .invalidNumber
  else if b = 91 then do skip; listEnd; fail .invalidNumber
  else if b = 123 then do skip; objectEnd; fail .invalidNumber
  else wrongType "a number"

/-- A text or a list of texts. -/
def namesOf (j : Json) : Option Json :=
  match j with
  | .text _ => some j
  | .array items => if items.all (·.text?.isSome) then some j else none
  | _ => none

def attempted (name : String) (r : Reader (Option Json)) (absent : Absence) : Field :=
  ⟨name, do pure (Json.ofOption id ((← attempt (optional r)).bind (·.bind id))), absent⟩

def registeredFields : List Field :=
  [⟨"exp", do pure (Json.ofOption id (← attempt seconds)), .standsFor .null⟩,
    ⟨"nbf", do pure (Json.ofOption id (← attempt seconds)), .standsFor .null⟩,
    attempted "sub" ((some ∘ .text) <$> text) .null,
    attempted "iss" (namesOf <$> value maxDepth) .null,
    attempted "aud" (namesOf <$> value maxDepth) .null]

/-- Whether the claims are good at second `now`: there is an expiry, it is not over, and no
audience is named. -/
def checkClaims (now : Int) (bytes : List UInt8) : Except TokenFault Unit :=
  match fromAll (record "ClaimsForValidation" registeredFields) bytes with
  | .error f => .error (.json (f.message bytes))
  | .ok j =>
    match (j.get? "exp").bind Json.int? with
    | none => .error (.missingClaim "exp")
    | some exp =>
      if exp < now then .error .expired
      else if ((j.get? "aud").map Json.isNull).getD true then .ok ()
      else .error .audience

end ServiceMesh.Token
