-- Reading the words, texts and numbers of a JSON text from its bytes.
--
-- A reader consumes bytes from a cursor. A fault of the text itself is placed where it is
-- met. A fault of the data is placed where reading stands when the value ends.
import ServiceMesh.Json.Fault

namespace ServiceMesh.Json

/-- The bytes still to read, and how many were read. -/
structure Cursor where
  rest : List UInt8
  offset : Nat := 0

abbrev Reader := EStateM Fault Cursor

namespace Reader

variable {α β : Type}

/-- A fault behind the last byte read. -/
def fail (c : Cause) : Reader α := fun s => .error { cause := c, at? := some s.offset } s

/-- A fault at the byte that comes next. -/
def failNext (c : Cause) : Reader α := fun s =>
  .error { cause := c, at? := some (if s.rest.isEmpty then s.offset else s.offset + 1) } s

/-- A fault whose place is still open. -/
def failOpen (c : Cause) : Reader α := fun s => .error { cause := c } s

def peek : Reader (Option UInt8) := fun s => .ok s.rest.head? s

def next : Reader (Option UInt8) := fun s =>
  match s.rest with
  | [] => .ok none s
  | b :: rest => .ok (some b) ⟨rest, s.offset + 1⟩

def skip : Reader Unit := fun s =>
  .ok () ⟨s.rest.drop 1, s.offset + (if s.rest.isEmpty then 0 else 1)⟩

def isSpace (b : UInt8) : Bool := b = 32 || b = 10 || b = 13 || b = 9

def isDigit (b : UInt8) : Bool := 48 ≤ b && b ≤ 57

def skipWhile (p : UInt8 → Bool) : Reader Unit := fun s =>
  let run := s.rest.takeWhile p
  .ok () ⟨s.rest.dropWhile p, s.offset + run.length⟩

def takeWhile (p : UInt8 → Bool) : Reader (List UInt8) := fun s =>
  let run := s.rest.takeWhile p
  .ok run ⟨s.rest.dropWhile p, s.offset + run.length⟩

/-- Passes blanks and shows the byte behind them. -/
def peekToken : Reader (Option UInt8) := do
  skipWhile isSpace
  peek

/-- How many bytes are left: a bound on every loop below. -/
def remaining : Reader Nat := fun s => .ok s.rest.length s

/-- Marks the faults of `r` as lying behind a step. -/
def within (step : Step) (r : Reader α) : Reader α := fun s =>
  match r s with
  | .ok a s => .ok a s
  | .error f s => .error { f with path := step :: f.path } s

/-- Runs `close` after `r` whether or not `r` succeeds, and places an open fault behind
what both have read. A fault of `r` wins. -/
def closing (r : Reader α) (close : Reader Unit) : Reader α := fun s =>
  match r s with
  | .ok a s =>
    match close s with
    | .ok () s => .ok a s
    | .error f s => .error f s
  | .error f s =>
    let s := match close s with
      | .ok () s => s
      | .error _ s => s
    .error { f with at? := some (f.at?.getD s.offset) } s

/-! ## Words and texts -/

def ident : List UInt8 → Reader Unit
  | [] => pure ()
  | expected :: rest => do
    match ← next with
    | none => fail .eofInValue
    | some b => if b = expected then ident rest else fail .expectedIdent

def hexValue? (b : UInt8) : Option Nat :=
  if 48 ≤ b && b ≤ 57 then some (b.toNat - 48)
  else if 97 ≤ b && b ≤ 102 then some (b.toNat - 87)
  else if 65 ≤ b && b ≤ 70 then some (b.toNat - 55)
  else none

/-- Four hexadecimal digits behind `\u`. -/
def hexEscape : Reader Nat := fun s =>
  match s.rest with
  | a :: b :: c :: d :: rest =>
    let s : Cursor := ⟨rest, s.offset + 4⟩
    match hexValue? a, hexValue? b, hexValue? c, hexValue? d with
    | some a, some b, some c, some d => .ok (a * 4096 + b * 256 + c * 16 + d) s
    | _, _, _, _ => fail .invalidEscape s
  | _ => fail .eofInText ⟨[], s.offset + s.rest.length⟩

def utf8 (n : Nat) : List UInt8 := (Char.ofNat n).toString.toUTF8.toList

/-- A code point behind `\u`; two escapes make one code point beyond the first plane. -/
def unicodeEscape : Reader (List UInt8) := do
  let n ← hexEscape
  if 0xDC00 ≤ n && n ≤ 0xDFFF then fail .loneSurrogate
  else if n < 0xD800 || 0xDBFF < n then pure (utf8 n)
  else
    match ← next with
    | none => fail .eofInText
    | some b =>
      if b ≠ 92 then fail .endOfHexEscape
      else
        match ← next with
        | none => fail .eofInText
        | some b =>
          if b ≠ 117 then fail .endOfHexEscape
          else
            let m ← hexEscape
            if m < 0xDC00 || 0xDFFF < m then fail .loneSurrogate
            else pure (utf8 ((n - 0xD800) * 1024 + (m - 0xDC00) + 0x10000))

/-- What stands for a byte behind a backslash, `u` apart. -/
def shortEscape? (b : UInt8) : Option UInt8 :=
  if b = 34 then some 34
  else if b = 92 then some 92
  else if b = 47 then some 47
  else if b = 98 then some 8
  else if b = 102 then some 12
  else if b = 110 then some 10
  else if b = 114 then some 13
  else if b = 116 then some 9
  else none

/-- A byte that stands for itself inside quotes. -/
def isPlain (b : UInt8) : Bool := 32 ≤ b && b ≠ 34 && b ≠ 92

def textOfBytes? (bytes : List UInt8) : Option String :=
  String.fromUTF8? ⟨bytes.toArray⟩

/-- The rest of a text behind its opening quote. `parts` holds what was read, the last part
first. -/
def textTail (parts : List (List UInt8)) : Nat → Reader String
  | 0 => fail .eofInText
  | fuel + 1 => do
    let run ← takeWhile isPlain
    match ← peek with
    | none => fail .eofInText
    | some b =>
      -- A quote ends the text, and only then is it known to be UTF-8 or not.
      if b = 34 then
        match textOfBytes? ((run :: parts).reverse.flatten) with
        | some s => do skip; pure s
        | none => fail .invalidCodePoint
      else if b = 92 then do
        skip
        match ← next with
        | none => fail .eofInText
        | some e =>
          if e = 117 then do
            let bytes ← unicodeEscape
            textTail (bytes :: run :: parts) fuel
          else
            match shortEscape? e with
            | some byte => textTail ([byte] :: run :: parts) fuel
            | none => fail .invalidEscape
      else do
        skip
        fail .controlCharacter

def textBody : Reader String := do
  let n ← remaining
  textTail [] (n + 1)

/-- Passes a text behind its opening quote. Escapes are not decoded. -/
def skipTextTail : Nat → Reader Unit
  | 0 => fail .eofInText
  | fuel + 1 => do
    skipWhile isPlain
    match ← peek with
    | none => fail .eofInText
    | some b =>
      if b = 34 then skip
      else if b = 92 then do
        skip
        match ← next with
        | none => fail .eofInText
        | some e =>
          if e = 117 then do
            let _ ← hexEscape
            skipTextTail fuel
          else if (shortEscape? e).isSome then skipTextTail fuel
          else fail .invalidEscape
      else fail .controlCharacter

def skipText : Reader Unit := do
  let n ← remaining
  skipTextTail (n + 1)

/-! ## Numbers -/

/-- `significand · 10 ^ exponent`, by repeated scaling within the range of powers. -/
def scaled (x : Float) (exponent : Int) : Nat → Option Float
  | 0 => none
  | fuel + 1 =>
    let size := exponent.natAbs
    if size ≤ 308 then
      let power := Float.ofScientific 1 false size
      if 0 ≤ exponent then
        let y := x * power
        if y.isInf then none else some y
      else some (x / power)
    else if x == 0.0 then some x
    else if 0 ≤ exponent then none
    else scaled (x / 1e308) (exponent + 308) fuel

/-- The float of a significand and a decimal exponent. -/
def floatOf (positive : Bool) (significand : Nat) (exponent : Int) : Reader Float :=
  match scaled significand.toUInt64.toFloat exponent (exponent.natAbs / 308 + 2) with
  | some x => pure (if positive then x else -x)
  | none => fail .numberOutOfRange

/-- Digits onto a significand of 64 bits: the new significand, how many digits went in, and
whether one was too many. -/
def digitsInto (significand : Nat) (count : Nat) : List UInt8 → Nat × Nat × Bool
  | [] => (significand, count, false)
  | b :: rest =>
    let n := significand * 10 + (b.toNat - 48)
    if n < UInt64.size then digitsInto n (count + 1) rest else (significand, count, true)

/-- The exponent behind `e`, the letter already seen. -/
def exponentPart (positive : Bool) (significand : Nat) (start : Int) : Reader Float := do
  skip
  let negative ← do
    match ← peek with
    | some 43 => do skip; pure false
    | some 45 => do skip; pure true
    | _ => pure false
  match ← peek with
  | none => fail .eofInValue
  | some b =>
    if !isDigit b then do skip; fail .invalidNumber
    else
      let digits ← takeWhile isDigit
      let e : Nat := digits.foldl (fun n b => n * 10 + (b.toNat - 48)) 0
      -- So large an exponent is decided by its sign; zero stays zero.
      if 1 <<< 31 ≤ e then
        if significand ≠ 0 && !negative then fail .numberOutOfRange
        else pure (if positive then 0.0 else -0.0)
      else floatOf positive significand (if negative then start - e else start + e)

/-- The fraction behind a point, the point already seen. -/
def fractionPart (positive : Bool) (significand : Nat) (start : Int) : Reader Float := do
  skip
  let digits ← takeWhile isDigit
  if digits.isEmpty then
    match ← peek with
    | some _ => failNext .invalidNumber
    | none => fail .eofInValue
  else
    let (n, count, _) := digitsInto significand 0 digits
    match ← peek with
    | some 101 | some 69 => exponentPart positive n (start - count)
    | _ => floatOf positive n (start - count)

/-- A number behind its sign. -/
def numberTail (positive : Bool) : Reader Json := do
  match ← peek with
  | none => fail .eofInValue
  | some b =>
    if !isDigit b then do skip; fail .invalidNumber
    else do
      -- No digit follows a zero at the front.
      let digits ← if b = 48 then do
          skip
          match ← peek with
          | some c => if isDigit c then failNext .invalidNumber else pure [b]
          | none => pure [b]
        else takeWhile isDigit
      let (n, count, long) := digitsInto 0 0 digits
      -- Digits that no longer fit count as a power of ten.
      let exponent : Int := digits.length - count
      match ← peek with
      | some 46 => .float <$> fractionPart positive n exponent
      | some 101 | some 69 => .float <$> exponentPart positive n exponent
      | _ =>
        if long then .float <$> floatOf positive n exponent
        else if positive then pure (.int n)
        -- Minus zero, and what no signed word holds, is a float.
        else if n = 0 || 1 <<< 63 < n then pure (.float (-n.toUInt64.toFloat))
        else pure (.int (-n))

/-- A number of either sign, its first byte seen. -/
def number : Reader Json := do
  match ← peek with
  | some 45 => do skip; numberTail false
  | _ => numberTail true

/-- Passes a number behind its sign. -/
def skipNumber : Reader Unit := do
  match ← next with
  | none => fail .invalidNumber
  | some b =>
    if !isDigit b then fail .invalidNumber
    else do
      if b = 48 then
        match ← peek with
        | some c => if isDigit c then failNext .invalidNumber
        | none => pure ()
      else skipWhile isDigit
      match ← peek with
      | some 46 => do
        skip
        let digits ← takeWhile isDigit
        if digits.isEmpty then failNext .invalidNumber
      | _ => pure ()
      match ← peek with
      | some 101 | some 69 => do
        skip
        match ← peek with
        | some 43 | some 45 => skip
        | _ => pure ()
        match ← next with
        | some c => if isDigit c then skipWhile isDigit else fail .invalidNumber
        | none => fail .invalidNumber
      | _ => pure ()

/-! ## Values of no interest -/

/-- Ends every value that closes here. The result is the stack of open brackets in front of
the next value. -/
def closeValues (comma : Bool) (stack : List UInt8) : Nat → Reader (List UInt8)
  | 0 => pure []
  | fuel + 1 =>
    match stack with
    | [] => pure []
    | open_ :: outer => do
      let inList := open_ = 91
      match ← peekToken with
      | none => fail (if inList then .eofInList else .eofInObject)
      | some b =>
        if b = 44 && comma then do skip; pure stack
        else if (b = 93 && inList) || (b = 125 && !inList) then do
          skip
          closeValues true outer fuel
        else if comma then
          failNext (if inList then .expectedListCommaOrEnd else .expectedObjectCommaOrEnd)
        else pure stack

/-- Passes one value and the values around it. -/
def skipValues (stack : List UInt8) : Nat → Reader Unit
  | 0 => pure ()
  | fuel + 1 => do
    match ← peekToken with
    | none => fail .eofInValue
    | some b => do
      let opened ← if b = 91 || b = 123 then do skip; pure true else do
        if b = 110 then do skip; ident [117, 108, 108]
        else if b = 116 then do skip; ident [114, 117, 101]
        else if b = 102 then do skip; ident [97, 108, 115, 101]
        else if b = 45 then do skip; skipNumber
        else if isDigit b then skipNumber
        else if b = 34 then do skip; skipText
        else failNext .expectedValue
        pure false
      let n ← remaining
      let stack := if opened then b :: stack else stack
      let stack ← closeValues (!opened) stack (n + stack.length + 2)
      match stack with
      | [] => pure ()
      | open_ :: _ => do
        -- In an object a key and its colon stand before the next value.
        if open_ = 123 then do
          match ← peekToken with
          | some 34 => do skip; skipText
          | some _ => failNext .keyMustBeText
          | none => fail .eofInObject
          match ← peekToken with
          | some 58 => skip
          | some _ => failNext .expectedColon
          | none => fail .eofInObject
        skipValues stack fuel

def skipValue : Reader Unit := do
  let n ← remaining
  skipValues [] (n + 1)

end Reader
end ServiceMesh.Json
