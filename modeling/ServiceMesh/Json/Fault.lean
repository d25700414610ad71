-- What can be wrong with a JSON text or with the data in it, in words.
import ServiceMesh.Json.Value
import ServiceMesh.Text.Quoted

namespace ServiceMesh.Json

/-- What was found where something else was expected. -/
inductive Found where
  | null
  | bool (b : Bool)
  | int (n : Int)
  | float (x : Float)
  | text (s : String)
  | sequence
  | map

def Found.describe : Found → String
  | .null => "null"
  | .bool b => "boolean `" ++ (if b then "true" else "false") ++ "`"
  | .int n => "integer `" ++ toString n ++ "`"
  | .float x => "floating point `" ++ floatText x ++ "`"
  | .text s => "string " ++ Text.quote s
  | .sequence => "sequence"
  | .map => "map"

inductive Cause where
  | eofInList
  | eofInObject
  | eofInText
  | eofInValue
  | expectedColon
  | expectedListCommaOrEnd
  | expectedObjectCommaOrEnd
  | expectedIdent
  | expectedValue
  | invalidEscape
  | invalidNumber
  | numberOutOfRange
  | invalidCodePoint
  | controlCharacter
  | keyMustBeText
  | loneSurrogate
  | trailingComma
  | trailingCharacters
  | endOfHexEscape
  | recursionLimit
  | invalidType (found : Found) (expected : String)
  | invalidValue (found : Found) (expected : String)
  | invalidLength (length : Nat) (expected : String)
  | missingField (name : String)
  | duplicateField (name : String)
  | custom (message : String)

def Cause.message : Cause → String
  | .eofInList => "EOF while parsing a list"
  | .eofInObject => "EOF while parsing an object"
  | .eofInText => "EOF while parsing a string"
  | .eofInValue => "EOF while parsing a value"
  | .expectedColon => "expected `:`"
  | .expectedListCommaOrEnd => "expected `,` or `]`"
  | .expectedObjectCommaOrEnd => "expected `,` or `\x7d`"
  | .expectedIdent => "expected ident"
  | .expectedValue => "expected value"
  | .invalidEscape => "invalid escape"
  | .invalidNumber => "invalid number"
  | .numberOutOfRange => "number out of range"
  | .invalidCodePoint => "invalid unicode code point"
  | .controlCharacter => "control character (\\u0000-\\u001F) found while parsing a string"
  | .keyMustBeText => "key must be a string"
  | .loneSurrogate => "lone leading surrogate in hex escape"
  | .trailingComma => "trailing comma"
  | .trailingCharacters => "trailing characters"
  | .endOfHexEscape => "unexpected end of hex escape"
  | .recursionLimit => "recursion limit exceeded"
  | .invalidType found expected => "invalid type: " ++ found.describe ++ ", expected " ++ expected
  | .invalidValue found expected => "invalid value: " ++ found.describe ++ ", expected " ++ expected
  | .invalidLength n expected => "invalid length " ++ toString n ++ ", expected " ++ expected
  | .missingField name => "missing field `" ++ name ++ "`"
  | .duplicateField name => "duplicate field `" ++ name ++ "`"
  | .custom message => message

/-- A fault of the data, in a text that is JSON. -/
def Cause.isData : Cause → Bool
  | .invalidType .. | .invalidValue .. | .invalidLength .. | .missingField _
  | .duplicateField _ | .custom _ => true
  | _ => false

inductive Step where
  | field (name : String)
  | item (index : Nat)

/-- A fault, the number of bytes before it (none until it is placed) and the way to it. -/
structure Fault where
  cause : Cause
  at? : Option Nat := none
  path : List Step := []

/-- Where a fault lies: line from 1, column in bytes. -/
def position (bytes : List UInt8) (offset : Nat) : Nat × Nat :=
  (bytes.take offset).foldl
    (fun (place : Nat × Nat) b =>
      if b = 10 then (place.1 + 1, 0) else (place.1, place.2 + 1)) (1, 0)

def Step.behind : Step → String
  | .field name => "." ++ name
  | .item index => "[" ++ toString index ++ "]"

/-- The way to a value, as in `user.names[2]`. -/
def pathText : List Step → String
  | [] => ""
  | .field name :: rest => name ++ String.join (rest.map Step.behind)
  | .item index :: rest => "[" ++ toString index ++ "]" ++ String.join (rest.map Step.behind)

def Fault.message (f : Fault) (bytes : List UInt8) : String :=
  let (line, column) := position bytes (f.at?.getD 0)
  f.cause.message ++ " at line " ++ toString line ++ " column " ++ toString column

/-- The fault with its place and the way to it. -/
def Fault.located (f : Fault) (bytes : List UInt8) : String :=
  if f.path.isEmpty then f.message bytes else pathText f.path ++ ": " ++ f.message bytes

end ServiceMesh.Json
