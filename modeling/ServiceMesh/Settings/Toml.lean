-- Settings read from a TOML text. Only the names of the outermost table matter, and what kind
-- of value each has. A fault tells the place in the text, and what was expected there.
import ServiceMesh.Settings.Setting

namespace ServiceMesh.Toml

/-- A fault, by the number of characters from its place to the end of the text. -/
structure Fault where
  left : Nat
  message : String

/-! What is read comes with what follows it. -/

def fault {α : Type} (rest : List Char) (message : String) : Except Fault α :=
  .error ⟨rest.length, message⟩

def isSpace (c : Char) : Bool := c = ' ' || c = '\t'

def isBareKeyChar (c : Char) : Bool := c.isAlphanum || c = '_' || c = '-'

def skipSpaces (cs : List Char) : List Char := cs.dropWhile isSpace

def dropLine (cs : List Char) : List Char := cs.dropWhile (· ≠ '\n')

/-- Blanks, line breaks and comments. -/
def skipBreaks : (fuel : Nat) → List Char → List Char
  | 0, cs => cs
  | fuel + 1, cs =>
    match cs.dropWhile fun c => isSpace c || c = '\n' || c = '\r' with
    | '#' :: rest => skipBreaks fuel (dropLine rest)
    | cs => cs

/-! ## Texts -/

def hexValue (c : Char) : Nat := if c.isDigit then c.toNat - 48 else c.toLower.toNat - 87

def isHexDigit (c : Char) : Bool := c.isDigit || ('a' ≤ c.toLower && c.toLower ≤ 'f')

/-- The character that hexadecimal digits name, or why they name none. -/
def namedChar (digits : List Char) : Except String Char :=
  let label := "invalid unicode " ++ toString digits.length ++ "-digit hex code"
  let code := digits.foldl (fun n c => n * 16 + hexValue c) 0
  if !digits.all isHexDigit then .error label
  else if code.isValidChar then .ok (Char.ofNat code)
  else .error (label ++ "\nvalue is out of range")

/-- A control character, which no text in quotes on one line holds. -/
def isControl (c : Char) : Bool := (c.toNat < 32 && c ≠ '\t') || c.toNat = 127

def basicText (out : List Char) : List Char → Except Fault (String × List Char)
  | [] => fault [] "invalid basic string"
  | '"' :: rest => .ok (String.ofList out, rest)
  | '\\' :: 'u' :: a :: b :: c :: d :: rest =>
    match namedChar [a, b, c, d] with
    | .ok named => basicText (out ++ [named]) rest
    | .error message => fault (a :: b :: c :: d :: rest) message
  | '\\' :: 'U' :: a :: b :: c :: d :: e :: f :: g :: h :: rest =>
    match namedChar [a, b, c, d, e, f, g, h] with
    | .ok named => basicText (out ++ [named]) rest
    | .error message => fault (a :: b :: c :: d :: e :: f :: g :: h :: rest) message
  | '\\' :: c :: rest =>
    match c with
    | 'u' => fault rest "invalid unicode 4-digit hex code"
    | 'U' => fault rest "invalid unicode 8-digit hex code"
    | 'b' => basicText (out ++ [Char.ofNat 8]) rest
    | 't' => basicText (out ++ ['\t']) rest
    | 'n' => basicText (out ++ ['\n']) rest
    | 'f' => basicText (out ++ [Char.ofNat 12]) rest
    | 'r' => basicText (out ++ ['\r']) rest
    | '"' => basicText (out ++ ['"']) rest
    | '\\' => basicText (out ++ ['\\']) rest
    | c => fault (c :: rest) ("invalid escape sequence\nexpected "
        ++ ", ".intercalate (["b", "f", "n", "r", "t", "u", "U", "\\", "\""].map
          fun s => "\x60" ++ s ++ "\x60"))
  | c :: rest =>
    if isControl c then fault (c :: rest) "invalid basic string" else basicText (out ++ [c]) rest

def literalText (cs : List Char) : Except Fault (String × List Char) :=
  let isInside (c : Char) : Bool := c ≠ '\x27' && !isControl c
  match cs.dropWhile isInside with
  | '\x27' :: rest => .ok (String.ofList (cs.takeWhile isInside), rest)
  | rest => fault rest "invalid literal string"

/-- The rest of a text over several lines, up to three quotes. -/
def longText (quote : Char) (out : List Char) : List Char → Except Fault (String × List Char)
  | [] => fault [] "invalid multiline string"
  | c :: rest =>
    if c = quote && rest.take 2 == [quote, quote] then .ok (String.ofList out, rest.drop 2)
    else longText quote (out ++ [c]) rest

def withoutBreak (cs : List Char) : List Char :=
  match cs with
  | '\n' :: rest => rest
  | cs => cs

def quoted? (cs : List Char) : Option (Except Fault (String × List Char)) :=
  match cs with
  | '"' :: '"' :: '"' :: rest => some (longText '"' [] (withoutBreak rest))
  | '\x27' :: '\x27' :: '\x27' :: rest => some (longText '\x27' [] (withoutBreak rest))
  | '"' :: rest => some (basicText [] rest)
  | '\x27' :: rest => some (literalText rest)
  | _ => none

/-! ## Keys -/

def simpleKey (cs : List Char) : Except Fault (String × List Char) :=
  match quoted? cs with
  | some r => r
  | none =>
    let key := cs.takeWhile isBareKeyChar
    if key.isEmpty then fault cs "invalid key"
    else .ok (String.ofList key, cs.drop key.length)

/-- Keys with points between. -/
def keyPath : (fuel : Nat) → List Char → Except Fault (List String × List Char)
  | 0, cs => fault cs "invalid key"
  | fuel + 1, cs => do
    let (key, rest) ← simpleKey cs
    match skipSpaces rest with
    | '.' :: rest =>
      let (keys, rest) ← keyPath fuel (skipSpaces rest)
      return (key :: keys, rest)
    | rest => return ([key], rest)

/-! ## Values -/

/-- A number without the marks between its digits. -/
def plainNumber (s : String) : String := String.ofList (s.toList.filter (· ≠ '_'))

def fraction? (s : String) : Option Float :=
  let cs := s.toList
  let (negative, cs) := match cs with
    | '-' :: rest => (true, rest)
    | '+' :: rest => (false, rest)
    | cs => (false, cs)
  let whole := cs.takeWhile Char.isDigit
  let rest := cs.drop whole.length
  let (digits, rest) := match rest with
    | '.' :: rest => (rest.takeWhile Char.isDigit, rest.dropWhile Char.isDigit)
    | rest => ([], rest)
  let exponent? : Option Int := match rest with
    | [] => some 0
    | 'e' :: e | 'E' :: e => (String.ofList (if e.head? = some '+' then e.tail else e)).toInt?
    | _ => none
  match exponent?, (String.ofList (whole ++ digits)).toNat? with
  | some e, some n =>
    let places : Int := e - digits.length
    let x := if places < 0 then Float.ofScientific n true places.natAbs
      else Float.ofScientific n false places.natAbs
    some (if negative then -x else x)
  | _, _ => none

def radixNumber? (base : Nat) (cs : List Char) : Option Int :=
  if cs.isEmpty then none
  else cs.foldl (fun n c => do
    let v := hexValue c
    if (c.isDigit || c.isAlpha) && v < base then return (← n) * base + v else none) (some 0)

/-- A whole number; no zero stands before other digits. -/
def wholeNumber? (s : String) : Option Int :=
  match s.toList.dropWhile fun c => c = '+' || c = '-' with
  | '0' :: _ :: _ => none
  | _ => (Text.readInteger (.signed 64) s).toOption

/-- Why a whole number is none: it is out of range. -/
def wholeFault? (s : String) : Option Text.IntegerError :=
  match s.toList.dropWhile fun c => c = '+' || c = '-' with
  | [] | '0' :: _ => none
  | cs =>
    match cs.all Char.isDigit, Text.readInteger (.signed 64) s with
    | true, .error e => some e
    | _, _ => none

def scalar? (s : String) : Option Setting :=
  match s with
  | "true" => some (.flag true)
  | "false" => some (.flag false)
  | "inf" | "+inf" => some (.float (1.0 / 0.0))
  | "-inf" => some (.float (-1.0 / 0.0))
  | "nan" | "+nan" | "-nan" => some (.float (0.0 / 0.0))
  | s =>
    let plain := plainNumber s
    match plain.toList with
    | '0' :: 'x' :: cs => (radixNumber? 16 cs).map .int
    | '0' :: 'o' :: cs => (radixNumber? 8 cs).map .int
    | '0' :: 'b' :: cs => (radixNumber? 2 cs).map .int
    | cs =>
      match wholeNumber? plain with
      | some n => some (.int n)
      | none =>
        -- A date or a time has these marks inside; a number has a minus only in its exponent.
        if (cs.drop 1).any fun c => c = '-' || c = ':' then
          if cs.any fun c => c = 'e' || c = 'E' then (fraction? plain).map .float
          else some (.text s)
        else if (cs.dropWhile fun c => c = '+' || c = '-').all Char.isDigit then none
        else (fraction? plain).map .float

def isScalarChar (c : Char) : Bool := !(" \t\r\n,]\x7d#=".contains c)

def noValue : String := "invalid string\nexpected \x60\"\x60, \x60\x27\x60"

mutual

def value : (fuel : Nat) → List Char → Except Fault (Setting × List Char)
  | 0, cs => fault cs noValue
  | fuel + 1, cs =>
    match quoted? cs with
    | some r => r.map fun (s, rest) => (.text s, rest)
    | none =>
      match cs with
      | '[' :: rest => items fuel (skipBreaks fuel rest)
      | '\x7b' :: rest => entries fuel true (skipSpaces rest)
      | cs =>
        let token := cs.takeWhile isScalarChar
        match scalar? (String.ofList token) with
        | some v => .ok (v, cs.drop token.length)
        | none =>
          match wholeFault? (plainNumber (String.ofList token)) with
          | some e => fault cs e.message
          | none =>
            match cs with
            | [] => fault [] ""
            -- A zero ends the number; what follows is left for the end of the line to refuse.
            | '0' :: rest => .ok (.int 0, rest)
            | cs =>
              let digits := cs.takeWhile Char.isDigit
              match (String.ofList digits).toNat? with
              | some n => .ok (.int n, cs.drop digits.length)
              | none => fault cs noValue

def items : (fuel : Nat) → List Char → Except Fault (Setting × List Char)
  | 0, cs => fault cs "invalid array\nexpected \x60]\x60"
  | fuel + 1, cs =>
    match cs with
    | ']' :: rest => .ok (.list, rest)
    | cs => do
      let (_, rest) ← value fuel cs
      match skipBreaks fuel rest with
      | ',' :: rest => items fuel (skipBreaks fuel rest)
      | ']' :: rest => .ok (.list, rest)
      | rest => fault rest "invalid array\nexpected \x60]\x60"

def entries : (fuel : Nat) → (first : Bool) → List Char → Except Fault (Setting × List Char)
  | 0, _, cs => fault cs "invalid inline table\nexpected \x60\x7d\x60"
  | fuel + 1, first, cs =>
    match cs with
    | '\x7d' :: rest => .ok (.table first, rest)
    | cs => do
      let (_, rest) ← keyPath fuel cs
      match rest with
      | '=' :: rest =>
        let (_, rest) ← value fuel (skipSpaces rest)
        match skipSpaces rest with
        | ',' :: rest => entries fuel false (skipSpaces rest)
        | '\x7d' :: rest => .ok (.table false, rest)
        | rest => fault rest "invalid inline table\nexpected \x60\x7d\x60"
      | rest => fault rest "expected \x60.\x60, \x60=\x60"

end

/-! ## Documents -/

/-- What is read so far: the outermost names, and the table that the next keys belong to. -/
structure Document where
  settings : List (String × Setting) := []
  header : Option String := none

/-- A setting under its keys. A name of the outermost table is set once. -/
def Document.add (keys : List String) (v : Setting) (d : Document) : Option Document :=
  match d.header, keys with
  -- Inside a table only its own name matters: it is no longer empty.
  | some name, _ => some { d with settings := d.settings ++ [(name, .table false)] }
  | none, [key] =>
    if d.settings.any (·.1 == key) then none
    else some { d with settings := d.settings ++ [(key, v)] }
  | none, key :: _ => some { d with settings := d.settings ++ [(key, .table false)] }
  | none, [] => some d

/-- The end of a line: nothing more but a comment. -/
def lineEnd (cs : List Char) : Except Fault (List Char) :=
  match skipSpaces cs with
  | [] => .ok []
  | '#' :: rest => .ok (dropLine rest)
  | '\n' :: rest => .ok rest
  | '\r' :: '\n' :: rest => .ok rest
  | rest => fault rest "expected newline, \x60#\x60"

/-- The name of a table in brackets, or of a list of tables in double ones. -/
def header (fuel : Nat) (cs : List Char) (d : Document) : Except Fault (Document × List Char) := do
  let (double, inner) := match cs with
    | '[' :: rest => (true, rest)
    | cs => (false, cs)
  let (keys, rest) ← keyPath fuel (skipSpaces inner)
  let close := if double then [']', ']'] else [']']
  if rest.take close.length == close then
    let rest ← lineEnd (rest.drop close.length)
    let name := keys.headD ""
    let v : Setting := if double && keys.length = 1 then .list else .table (keys.length = 1)
    return ({ settings := d.settings ++ [(name, v)], header := if double && keys.length = 1
      then none else some name }, rest)
  else
    fault rest
      ("invalid table header\nexpected \x60.\x60, \x60" ++ String.ofList close ++ "\x60")

def lines : (fuel : Nat) → Document → List Char → Except Fault Document
  | 0, d, _ => .ok d
  | fuel + 1, d, cs =>
    match skipBreaks fuel cs with
    | [] => .ok d
    | '[' :: rest => do
      let (d, rest) ← header fuel rest d
      lines fuel d rest
    | cs => do
      let (keys, rest) ← keyPath fuel cs
      match rest with
      | '=' :: rest =>
        let (v, rest) ← value fuel (skipSpaces rest)
        let rest ← lineEnd rest
        match d.add keys v with
        | some d => lines fuel d rest
        | none => fault cs ("duplicate key \x60" ++ keys.headD "" ++ "\x60 in document root")
      | rest => fault rest "expected \x60.\x60, \x60=\x60"

/-- A fault in words, with the line that it is in. -/
def Fault.text (source : List Char) (f : Fault) : String :=
  let before := source.take (source.length - f.left)
  let line := (before.filter (· = '\n')).length
  let column := (before.reverse.takeWhile (· ≠ '\n')).length
  let content := String.ofList (((source.drop (before.length - column)).takeWhile (· ≠ '\n')))
  let number := toString (line + 1)
  let gutter := String.ofList (List.replicate (number.length + 1) ' ')
  "TOML parse error at line " ++ number ++ ", column " ++ toString (column + 1) ++ "\n"
    ++ gutter ++ "|\n" ++ number ++ " | " ++ content ++ "\n"
    ++ gutter ++ "|" ++ String.ofList (List.replicate (column + 1) ' ') ++ "^\n"
    ++ f.message ++ "\n"

def read (text : String) : Except String (List (String × Setting)) :=
  let source := match text.toList with
    | '\ufeff' :: rest => rest
    | cs => cs
  match lines (2 * source.length + 2) {} source with
  | .ok d => .ok d.settings
  | .error f => .error (f.text source)

end ServiceMesh.Toml
