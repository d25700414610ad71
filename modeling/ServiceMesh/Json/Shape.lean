-- Reading JSON into an expected shape: a text, a number of a range, a list, a record.
import ServiceMesh.Json.Reader
import ServiceMesh.Text.Integer

namespace ServiceMesh.Json
namespace Reader

variable {α : Type}

/-- Refuses the next value as being of the wrong type. -/
def wrongType (expected : String) : Reader α := do
  match ← peek with
  | none => fail .eofInValue
  | some b =>
    if b = 110 then do skip; ident [117, 108, 108]; fail (.invalidType .null expected)
    else if b = 116 then do
      skip; ident [114, 117, 101]; fail (.invalidType (.bool true) expected)
    else if b = 102 then do
      skip; ident [97, 108, 115, 101]; fail (.invalidType (.bool false) expected)
    else if b = 34 then do
      skip
      let s ← textBody
      fail (.invalidType (.text s) expected)
    else if b = 45 || isDigit b then do
      match ← number with
      | .float x => fail (.invalidType (.float x) expected)
      | .int n => fail (.invalidType (.int n) expected)
      | _ => fail .invalidNumber
    else if b = 91 then fail (.invalidType .sequence expected)
    else if b = 123 then fail (.invalidType .map expected)
    else failNext .expectedValue

/-- A token, or the fault that the text ends here. -/
def token : Reader UInt8 := do
  match ← peekToken with
  | none => fail .eofInValue
  | some b => pure b

def text (expected : String := "a string") : Reader String := do
  if (← token) = 34 then do skip; textBody else wrongType expected

/-- A whole number of a range that `expected` names. -/
def integer (range : Text.IntegerRange) (expected : String) : Reader Int := do
  let b ← token
  if b = 45 || isDigit b then
    match ← number with
    | .float x => fail (.invalidType (.float x) expected)
    | .int n =>
      if range.contains n then pure n else fail (.invalidValue (.int n) expected)
    | _ => fail .invalidNumber
  else wrongType expected

def flag : Reader Bool := do
  match ← token with
  | 116 => do skip; ident [114, 117, 101]; pure true
  | 102 => do skip; ident [97, 108, 115, 101]; pure false
  | _ => wrongType "a boolean"

def optional (r : Reader α) : Reader (Option α) := do
  match ← peekToken with
  | some 110 => do skip; ident [117, 108, 108]; pure none
  | _ => some <$> r

/-- Goes to the next item of a list, or finds its end. -/
def nextItem (first : Bool) : Reader Bool := do
  match ← peekToken with
  | none => fail .eofInList
  | some b =>
    if b = 93 then pure false
    else if b = 44 && !first then do
      skip
      match ← peekToken with
      | some 93 => failNext .trailingComma
      | some _ => pure true
      | none => fail .eofInValue
    else if first then pure true
    else failNext .expectedListCommaOrEnd

/-- Goes to the next key of an object, or finds its end. -/
def nextKey (first : Bool) : Reader Bool := do
  match ← peekToken with
  | none => fail .eofInObject
  | some b =>
    if b = 125 then pure false
    else if b = 44 && !first then do
      skip
      match ← peekToken with
      | some 34 => pure true
      | some 125 => failNext .trailingComma
      | some _ => failNext .keyMustBeText
      | none => fail .eofInValue
    else if !first then failNext .expectedObjectCommaOrEnd
    else if b = 34 then pure true
    else failNext .keyMustBeText

def colon : Reader Unit := do
  match ← peekToken with
  | some 58 => skip
  | some _ => failNext .expectedColon
  | none => fail .eofInObject

def listEnd : Reader Unit := do
  match ← peekToken with
  | some 93 => skip
  | some 44 => do
    skip
    match ← peekToken with
    | some 93 => failNext .trailingComma
    | _ => failNext .trailingCharacters
  | some _ => failNext .trailingCharacters
  | none => fail .eofInList

def objectEnd : Reader Unit := do
  match ← peekToken with
  | some 125 => skip
  | some 44 => failNext .trailingComma
  | some _ => failNext .trailingCharacters
  | none => fail .eofInObject

/-- The items of a list behind its bracket, the last one first. -/
def itemsTail (item : Reader α) (seen : List α) : Nat → Reader (List α)
  | 0 => pure seen
  | fuel + 1 => do
    if ← nextItem seen.isEmpty then
      let x ← within (.item seen.length) item
      itemsTail item (x :: seen) fuel
    else pure seen

def list (item : Reader α) : Reader (List α) := do
  if (← token) = 91 then
    closing (do skip; let n ← remaining; List.reverse <$> itemsTail item [] (n + 1)) listEnd
  else wrongType "a sequence"

/-- The entries of an object behind its brace, the last one first. -/
def entriesTail (value : Reader α) (seen : List (String × α)) : Nat → Reader (List (String × α))
  | 0 => pure seen
  | fuel + 1 => do
    if ← nextKey seen.isEmpty then
      skip
      let key ← textBody
      colon
      let x ← within (.field key) value
      entriesTail value ((key, x) :: seen) fuel
    else pure seen

def table (value : Reader α) : Reader (List (String × α)) := do
  if (← token) = 123 then
    closing (do skip; let n ← remaining; List.reverse <$> entriesTail value [] (n + 1)) objectEnd
  else wrongType "a map"

/-- What an absent field of a record stands for. -/
inductive Absence where
  /-- The field has to be there. -/
  | refused
  /-- An absent field is `null`; in a list, every item has to be there all the same. -/
  | null
  /-- An absent field or item has this value. -/
  | standsFor (x : Json)

structure Field where
  name : String
  read : Reader Json
  absent : Absence := .refused

/-- The fields of an object behind its brace. Unknown fields are passed over. -/
def recordTail (fields : List Field) (first : Bool) (seen : List (String × Json)) :
    Nat → Reader (List (String × Json))
  | 0 => pure seen
  | fuel + 1 => do
    if ← nextKey first then
      skip
      let key ← textBody
      match fields.find? (·.name == key) with
      | some field =>
        -- The value of a second field of one name is not read any more.
        if seen.any (·.1 == key) then failOpen (.duplicateField key)
        else do
          colon
          let x ← within (.field key) field.read
          recordTail fields false ((key, x) :: seen) fuel
      | none => do
        colon
        within (.field key) skipValue
        recordTail fields false seen fuel
    else pure seen

/-- The value of every field in turn, absent fields among them. -/
def complete (seen : List (String × Json)) : List Field → Reader (List (String × Json))
  | [] => pure []
  | field :: rest =>
    match seen.find? (·.1 == field.name), field.absent with
    | some found, _ => (found :: ·) <$> complete seen rest
    | none, .standsFor x => ((field.name, x) :: ·) <$> complete seen rest
    | none, .null => ((field.name, .null) :: ·) <$> complete seen rest
    | none, .refused => failOpen (.missingField field.name)

/-- The fields of a record given as a list, in turn. -/
def positional (expected : String) (index : Nat) : List Field → Reader (List (String × Json))
  | [] => pure []
  | field :: rest => do
    if ← nextItem (index = 0) then
      let x ← within (.item index) field.read
      ((field.name, x) :: ·) <$> positional expected (index + 1) rest
    else
      match field.absent with
      | .standsFor x => ((field.name, x) :: ·) <$> positional expected (index + 1) rest
      | _ => failOpen (.invalidLength index expected)

/-- A record: an object with these fields, or a list of their values. -/
def record (name : String) (fields : List Field) : Reader Json := do
  match ← token with
  | 123 =>
    closing (do
      skip
      let n ← remaining
      let seen ← recordTail fields true [] (n + 1)
      .object <$> complete seen fields) objectEnd
  | 91 =>
    let elements := if fields.length = 1 then " with 1 element"
      else " with " ++ toString fields.length ++ " elements"
    closing (do
      skip
      .object <$> positional ("struct " ++ name ++ elements) 0 fields) listEnd
  | _ => wrongType ("struct " ++ name)

/-- A value of any shape, nested less than `depth` deep. -/
def value : Nat → Reader Json
  | 0 => failNext .recursionLimit
  | depth + 1 => do
    let b ← token
    if b = 110 then do skip; ident [117, 108, 108]; pure .null
    else if b = 116 then do skip; ident [114, 117, 101]; pure (.bool true)
    else if b = 102 then do skip; ident [97, 108, 115, 101]; pure (.bool false)
    else if b = 34 then do skip; .text <$> textBody
    else if b = 45 || isDigit b then number
    else if b = 91 then .array <$> list (value depth)
    else if b = 123 then .object <$> table (value depth)
    else failNext .expectedValue

def finish : Reader Unit := do
  match ← peekToken with
  | none => pure ()
  | some _ => failNext .trailingCharacters

/-- Reads a value from the front of the bytes; what follows is not looked at. -/
def fromFront (r : Reader α) (bytes : List UInt8) : Except Fault α :=
  match r ⟨bytes, 0⟩ with
  | .ok a _ => .ok a
  | .error f _ => .error f

/-- Reads a value that is all of the bytes. -/
def fromAll (r : Reader α) (bytes : List UInt8) : Except Fault α :=
  fromFront (do let a ← r; finish; pure a) bytes

end Reader

def maxDepth : Nat := 128

def parse (s : String) : Except Fault Json :=
  Reader.fromAll (Reader.value maxDepth) s.toUTF8.toList

end ServiceMesh.Json
