-- JSON values and their compact text. The fields of an object keep their order.
import ServiceMesh.Decimal.Shortest

namespace ServiceMesh

inductive Json where
  | null
  | bool (b : Bool)
  | int (n : Int)
  | float (x : Float)
  | text (s : String)
  | array (items : List Json)
  | object (fields : List (String × Json))
  deriving Inhabited

namespace Json

/-- A number in a JSON text: positional below 10¹⁶ and from 10⁻⁵ on. -/
def floatLayout : Decimal.Layout := ⟨16, 4, 2, true⟩

/-- The text of a number with a fraction. What is no number is written `null`. -/
def floatText (x : Float) : String :=
  if x.isFinite then floatLayout.float x else "null"

def hexDigit (n : Nat) : Char :=
  if n < 10 then Char.ofNat (48 + n) else Char.ofNat (87 + n)

/-- One character inside a JSON string. -/
def escapeChar (c : Char) : List Char :=
  if c = '"' then ['\\', '"']
  else if c = '\\' then ['\\', '\\']
  else if c = '\n' then ['\\', 'n']
  else if c = '\r' then ['\\', 'r']
  else if c = '\t' then ['\\', 't']
  else if c.toNat = 8 then ['\\', 'b']
  else if c.toNat = 12 then ['\\', 'f']
  else if c.toNat < 0x20 then
    ['\\', 'u', '0', '0', hexDigit (c.toNat / 16), hexDigit (c.toNat % 16)]
  else [c]

def textLiteral (s : String) : String :=
  String.ofList ('"' :: s.toList.flatMap escapeChar ++ ['"'])

mutual

/-- The compact text of a value: no blanks. -/
def render : Json → String
  | .null => "null"
  | .bool b => if b then "true" else "false"
  | .int n => toString n
  | .float x => floatText x
  | .text s => textLiteral s
  | .array items => "[" ++ renderItems items ++ "]"
  | .object fields => "\x7b" ++ renderFields fields ++ "\x7d"

def renderItems : List Json → String
  | [] => ""
  | [x] => render x
  | x :: y :: rest => render x ++ "," ++ renderItems (y :: rest)

def renderFields : List (String × Json) → String
  | [] => ""
  | [(k, x)] => textLiteral k ++ ":" ++ render x
  | (k, x) :: y :: rest => textLiteral k ++ ":" ++ render x ++ "," ++ renderFields (y :: rest)

end

/-! ## Looking into a value -/

/-- The field of an object; the last one of that name. -/
def get? (j : Json) (key : String) : Option Json :=
  match j with
  | .object fields => (fields.reverse.find? (·.1 == key)).map (·.2)
  | _ => none

def text? : Json → Option String
  | .text s => some s
  | _ => none

def int? : Json → Option Int
  | .int n => some n
  | _ => none

def bool? : Json → Option Bool
  | .bool b => some b
  | _ => none

def items : Json → List Json
  | .array xs => xs
  | _ => []

def fields : Json → List (String × Json)
  | .object fs => fs
  | _ => []

def isNull : Json → Bool
  | .null => true
  | _ => false

def valueAt (j : Json) (key : String) : Json := (j.get? key).getD .null

/-- The text in a field, empty when there is none. -/
def textAt (j : Json) (key : String) : String := ((j.get? key).bind text?).getD ""

/-- The text in a field that may be absent or null. -/
def textAt? (j : Json) (key : String) : Option String := (j.get? key).bind text?

/-- The number in a field, zero when there is none. -/
def intAt (j : Json) (key : String) : Int := ((j.get? key).bind int?).getD 0

def natAt? (j : Json) (key : String) : Option Nat := ((j.get? key).bind int?).map Int.toNat

def natAt (j : Json) (key : String) (default : Nat) : Nat := (j.natAt? key).getD default

/-- The truth value in a field, false when there is none. -/
def flagAt (j : Json) (key : String) : Bool := ((j.get? key).bind bool?).getD false

/-- The items of a list in a field, none when there is no list. -/
def itemsAt (j : Json) (key : String) : List Json := ((j.get? key).map items).getD []

/-- The fields of an object in a field, none when there is no object. -/
def fieldsAt (j : Json) (key : String) : List (String × Json) := ((j.get? key).map fields).getD []

def ofOption {α : Type} (f : α → Json) : Option α → Json
  | none => .null
  | some x => f x

def nat (n : Nat) : Json := .int n

end Json

end ServiceMesh
