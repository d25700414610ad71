-- The header of a token: the algorithm of its signature, among fields that only have to have
-- the right shape.
import ServiceMesh.Json.Shape

namespace ServiceMesh.Token

open Json Json.Reader

def algorithms : List String :=
  ["HS256", "HS384", "HS512", "ES256", "ES384", "RS256", "RS384", "RS512", "PS256", "PS384",
    "PS512", "EdDSA"]

def algorithmName : Reader Json := do
  let name ← textBody
  if algorithms.contains name then pure (.text name)
  else
    failOpen (.custom ("unknown variant `" ++ name ++ "`, expected one of "
      ++ String.intercalate ", " (algorithms.map fun a => "`" ++ a ++ "`")))

/-- The algorithm: its name, or an object with that name as its only key and nothing in it. -/
def algorithm : Reader Json := do
  match ← token with
  | 34 => do
    skip
    closing algorithmName (pure ())
  | 123 => do
    skip
    match ← peekToken with
    | some 34 => do
      skip
      let name ← closing algorithmName (pure ())
      colon
      if (← token) = 110 then do
        skip
        ident [117, 108, 108]
        match ← peekToken with
        | some 125 => do skip; pure name
        | some _ => failNext .expectedValue
        | none => fail .eofInObject
      else wrongType "unit"
    | some _ => failNext .keyMustBeText
    | none => fail .eofInValue
  | _ => failNext .expectedValue

/-- Whether the fields of a key description fit one of the families of keys. -/
def describesKey (j : Json) : Bool :=
  let has (name : String) : Bool := (j.textAt? name).isSome
  match j.textAt "kty" with
  | "EC" => has "crv" && has "x" && has "y"
  | "RSA" => has "n" && has "e"
  | "oct" => has "k"
  | "OKP" => has "crv" && has "x"
  | _ => false

def keyDescription : Reader Json := do
  if (← token) = 123 then
    closing (do
      let j ← value maxDepth
      if describesKey j then pure j
      else failOpen (.custom
        "data did not match any variant of untagged enum AlgorithmParameters")) (pure ())
  else wrongType "struct Jwk"

def optionalText (name : String) : Field :=
  ⟨name, (Json.ofOption Json.text) <$> optional text, .null⟩

def headerFields : List Field :=
  [optionalText "typ", ⟨"alg", algorithm, .refused⟩, optionalText "cty", optionalText "jku",
    ⟨"jwk", (Json.ofOption id) <$> optional keyDescription, .null⟩, optionalText "kid",
    optionalText "x5u",
    ⟨"x5c", (Json.ofOption Json.array) <$> optional (list (Json.text <$> text)), .null⟩,
    optionalText "x5t", optionalText "x5t#S256"]

def readHeader (bytes : List UInt8) : Except String String :=
  match fromAll (record "Header" headerFields) bytes with
  | .ok j => .ok (j.textAt "alg")
  | .error f => .error (f.message bytes)

end ServiceMesh.Token
