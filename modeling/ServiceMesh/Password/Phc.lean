-- Stored password hashes as text: `$algorithm$v=version$name=value,…$salt$digest`, where
-- everything behind the algorithm may be missing from the right.
import ServiceMesh.Digest.Argon2
import ServiceMesh.Encoding.Base64
import ServiceMesh.Text.Integer

namespace ServiceMesh.Password

inductive ValueFault where
  | character (c : Char)
  | format
  | malformed
  | tooLong
  | tooShort
  deriving DecidableEq

def ValueFault.message : ValueFault → String
  | .character c => "contains invalid character: '" ++ c.toString ++ "'"
  | .format => "value format is invalid"
  | .malformed => "value malformed"
  | .tooLong => "value to long"
  | .tooShort => "value to short"

inductive PhcFault where
  | missingField
  | trailingData
  | parameterName
  | parameterValue (why : ValueFault)
  | tooManyParameters
  | salt (why : ValueFault)
  | encoding
  | length
  | digestTooShort
  deriving DecidableEq

def minDigest : Nat := 10

def maxDigest : Nat := 64

def PhcFault.message : PhcFault → String
  | .missingField => "password hash string missing field"
  | .trailingData => "password hash string contains trailing characters"
  | .parameterName => "invalid parameter name"
  | .parameterValue why => "invalid parameter value: " ++ why.message
  | .tooManyParameters => "maximum number of parameters reached"
  | .salt why => "salt invalid: " ++ why.message
  | .encoding => "invalid Base64 encoding"
  | .length => "invalid Base64 length"
  | .digestTooShort =>
    "output size too short, expected at least " ++ toString minDigest ++ " bytes"

structure Phc where
  algorithm : String
  version : Option Nat := none
  params : List (String × String) := []
  salt : Option String := none
  digest : Option (List UInt8) := none

namespace Phc

def isNameChar (c : Char) : Bool := c.isLower || c.isDigit || c == '-'

def isValueChar (c : Char) : Bool := c.isAlphanum || c == '/' || c == '+' || c == '.' || c == '-'

def checkName (s : String) : Except PhcFault Unit :=
  if 1 ≤ s.utf8ByteSize && s.utf8ByteSize ≤ 32 && s.toList.all isNameChar then .ok ()
  else .error .parameterName

def checkValue (s : String) : Except ValueFault Unit :=
  if 64 < s.utf8ByteSize then .error .tooLong
  else
    match s.toList.find? (!isValueChar ·) with
    | some c => .error (.character c)
    | none => .ok ()

/-- A natural number of 32 bits without leading zeros. -/
def decimal (s : String) : Except ValueFault Nat :=
  match s.toList with
  | [] => .error .malformed
  | first :: rest =>
    match (first :: rest).find? (!Char.isDigit ·) with
    | some c => .error (.character c)
    | none =>
      if first == '0' && !rest.isEmpty then .error .format
      else
        match Text.readNatural 32 s with
        | .ok n => .ok n
        | .error _ => .error .format

def parsePair (s : String) : Except PhcFault (String × String) := do
  match s.splitOn "=" with
  | name :: rest =>
    checkName name
    match rest with
    | [] => throw (.parameterValue .malformed)
    | value :: more =>
      (checkValue value).mapError .parameterValue
      if more.isEmpty then return (name, value) else throw (.parameterValue .malformed)
  | [] => throw .parameterName

def parseParams (s : String) : Except PhcFault (List (String × String)) :=
  if 127 < s.utf8ByteSize then .error .tooManyParameters
  else (s.splitOn ",").mapM parsePair

/-- A salt of four to 64 characters. -/
def parseSalt (s : String) : Except PhcFault String := do
  if s.utf8ByteSize < 4 then throw (.salt .tooShort)
  if 64 < s.utf8ByteSize then throw (.salt .tooLong)
  (checkValue s).mapError .salt
  return s

/-- A digest of ten to 64 bytes. -/
def parseDigest (s : String) : Except PhcFault (List UInt8) := do
  if maxDigest < s.utf8ByteSize * 3 / 4 then throw .length
  match Encoding.Alphabet.standard.decode s with
  | .error _ => throw .encoding
  | .ok bytes => if bytes.length < minDigest then throw .digestTooShort else return bytes

/-- Takes a stored hash apart. A field that is no version may be the parameters, and one
that is neither is the salt. -/
def parse (s : String) : Except PhcFault Phc := do
  match s.splitOn "$" with
  | "" :: algorithm :: fields =>
    checkName algorithm
    let (version, fields) ← do
      match fields with
      | field :: rest =>
        if field.startsWith "v=" && !field.contains ',' then
          let value := (field.drop 2).toString
          (checkValue value).mapError .parameterValue
          let n ← (decimal value).mapError .parameterValue
          pure (some n, rest)
        else pure (none, fields)
      | [] => pure (none, [])
    let (params, fields) ← do
      match fields with
      | field :: rest =>
        if field.contains '=' then pure (← parseParams field, rest) else pure ([], fields)
      | [] => pure ([], [])
    let salt ← fields.head?.mapM parseSalt
    let digest ← (fields.drop 1).head?.mapM parseDigest
    if 2 < fields.length then throw .trailingData
    return { algorithm, version, params, salt, digest }
  | _ => throw .missingField

def render (algorithm : String) (version : Nat) (params : List (String × Nat))
    (salt digest : List UInt8) : String :=
  let pairs := params.map fun (name, n) => name ++ "=" ++ toString n
  "$" ++ algorithm ++ "$v=" ++ toString version ++ "$" ++ ",".intercalate pairs ++ "$" ++
    Encoding.Alphabet.standard.encode salt ++ "$" ++ Encoding.Alphabet.standard.encode digest

end Phc
end ServiceMesh.Password
