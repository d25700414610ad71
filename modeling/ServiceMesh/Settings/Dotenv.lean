-- Files of variables: a line sets one. What the environment says already stays. The first line
-- that is no setting ends the reading.
import ServiceMesh.Settings.Environment

namespace ServiceMesh.Dotenv

/-! ## Lines

A quoted value may go over several lines. -/

/-- Where in a line the reader is. -/
inductive LineState where
  | plain
  | blank
  | escape
  | strong
  | strongEscape
  | weak
  | weakEscape
  deriving DecidableEq, Repr

/-- The state after a character; none where a comment begins. -/
def LineState.next (c : Char) : LineState → Option LineState
  | .blank =>
    if c = '#' then none
    else some (if c = '\\' then .escape else if c = '"' then .weak
      else if c = '\x27' then .strong else .plain)
  | .plain =>
    some (if c = '\\' then .escape else if c = '"' then .weak else if c = '\x27' then .strong
      else if Text.isBlank c && c != '\n' && c != '\r' then .blank else .plain)
  | .escape => some .plain
  | .weak => some (if c = '\\' then .weakEscape else if c = '"' then .plain else .weak)
  | .weakEscape => some .weak
  | .strong => some (if c = '\\' then .strongEscape else if c = '\x27' then .plain else .strong)
  | .strongEscape => some .strong

/-- What a physical line says, up to a comment, and the state at its end. -/
def scan (state : LineState) : List Char → List Char × Option LineState
  | [] => ([], some state)
  | c :: rest =>
    match state.next c with
    | none => ([], none)
    | some state =>
      let (said, last) := scan state rest
      (c :: said, last)

/-- The text with its lines apart, each with its break. -/
def physicalLines : List Char → List (List Char)
  | [] => []
  | c :: rest =>
    if c = '\n' then ['\n'] :: physicalLines rest
    else match physicalLines rest with
      | [] => [[c]]
      | line :: more => (c :: line) :: more

def isComment (line : List Char) : Bool := (line.dropWhile Text.isBlank).head? = some '#'

/-- The lines as they are read; none for one that does not end. -/
def logicalLines (before : List Char) (state : LineState) :
    List (List Char) → List (Option (List Char))
  | [] => if before.isEmpty then [] else [none]
  | line :: more =>
    -- A line that begins with the mark says nothing, whatever quotes are in it.
    if isComment (before ++ line) then some [] :: logicalLines [] .plain more
    else match scan state line with
      | (said, none) => some (before ++ said) :: logicalLines [] .plain more
      | (_, some .plain) => some (before ++ line) :: logicalLines [] .plain more
      | (_, some state) => logicalLines (before ++ line) state more

/-! ## Values -/

/-- How a value names a variable: `$NAME`, or with braces around the name. -/
inductive Naming where
  | bare (name : List Char)
  | braced (name : List Char)
  deriving DecidableEq, Repr

structure ValueState where
  strong : Bool := false
  weak : Bool := false
  escaped : Bool := false
  /-- Behind the value only a comment may follow. -/
  ended : Bool := false
  naming : Option Naming := none
  out : List Char := []

def ValueState.fill (meaning : String → String) (name : List Char) (s : ValueState) : ValueState :=
  { s with naming := none, out := s.out ++ (meaning (String.ofList name)).toList }

def isNameChar (c : Char) : Bool := c.isAlphanum || 128 ≤ c.toNat

/-- The value at its end. A quote or a brace must not be open. -/
def ValueState.finish (meaning : String → String) (s : ValueState) : Option String :=
  if s.strong || s.weak then none
  else match s.naming with
    | some (.braced _) => none
    | some (.bare name) => some (String.ofList (s.fill meaning name).out)
    | none => some (String.ofList s.out)

def valueFrom (meaning : String → String) (s : ValueState) : List Char → Option String
  | [] => s.finish meaning
  | c :: rest =>
    -- Behind the value: blanks, then nothing or a comment.
    if s.ended then
      if c = ' ' || c = '\t' then valueFrom meaning s rest
      else if c = '#' then s.finish meaning
      else none
    -- Behind a backslash, outside single quotes.
    else if s.escaped then
      let s := { s with escaped := false }
      if "\\\x27\"$ ".contains c then valueFrom meaning { s with out := s.out ++ [c] } rest
      else if c = 'n' then valueFrom meaning { s with out := s.out ++ ['\n'] } rest
      else none
    -- In single quotes every character stands for itself.
    else if s.strong then
      if c = '\x27' then valueFrom meaning { s with strong := false } rest
      else valueFrom meaning { s with out := s.out ++ [c] } rest
    else match s.naming with
      | some (.bare name) =>
        if isNameChar c then valueFrom meaning { s with naming := some (.bare (name ++ [c])) } rest
        else if c = '\x7b' && name.isEmpty then
          valueFrom meaning { s with naming := some (.braced []) } rest
        else
          -- The first character that is none of the name ends it, and is read as usual.
          let s := s.fill meaning name
          if c = '$' then valueFrom meaning { s with naming := some (.bare []) } rest
          else valueFrom meaning { s with out := s.out ++ [c] } rest
      | some (.braced name) =>
        if c = '\x7d' then valueFrom meaning (s.fill meaning name) rest
        else valueFrom meaning { s with naming := some (.braced (name ++ [c])) } rest
      | none =>
        if c = '$' then valueFrom meaning { s with naming := some (.bare []) } rest
        else if s.weak then
          if c = '"' then valueFrom meaning { s with weak := false } rest
          else if c = '\\' then valueFrom meaning { s with escaped := true } rest
          else valueFrom meaning { s with out := s.out ++ [c] } rest
        else if c = '\x27' then valueFrom meaning { s with strong := true } rest
        else if c = '"' then valueFrom meaning { s with weak := true } rest
        else if c = '\\' then valueFrom meaning { s with escaped := true } rest
        else if c = ' ' || c = '\t' then valueFrom meaning { s with ended := true } rest
        else valueFrom meaning { s with out := s.out ++ [c] } rest

/-! ## Settings -/

def trimEnd (cs : List Char) : List Char := (cs.reverse.dropWhile Text.isBlank).reverse

def skipBlanks (cs : List Char) : List Char := cs.dropWhile Text.isBlank

def key? (cs : List Char) : Option (String × List Char) :=
  let isKeyChar (c : Char) : Bool := c.isAlphanum || c = '_' || c = '.'
  match cs with
  | c :: _ =>
    if c.isAlpha || c = '_' then
      some (String.ofList (cs.takeWhile isKeyChar), skipBlanks (cs.dropWhile isKeyChar))
    else none
  | [] => none

def behindEquals? : List Char → Option (List Char)
  | '=' :: rest => some (skipBlanks rest)
  | _ => none

/-- The key of a line, and what is set. The word `export` may stand before a key. -/
def keyed? (cs : List Char) : Option (String × List Char) := do
  let (key, rest) ← key? cs
  match behindEquals? rest with
  | some value => return (key, value)
  | none =>
    if key = "export" then
      let (key, rest) ← key? rest
      return (key, ← behindEquals? rest)
    else none

/-- What a line sets: nothing, or a variable. None if the line is no setting. -/
def setting? (meaning : String → String) (line : List Char) : Option (Option (String × String)) :=
  match skipBlanks (trimEnd line) with
  | [] | '#' :: _ => some none
  | cs =>
    match keyed? cs with
    | none => none
    | some (key, []) | some (key, '#' :: _) => some (some (key, ""))
    | some (key, value) => (valueFrom meaning {} value).map fun v => some (key, v)

/-- Reads line after line into the environment. A value may name variables, those of the
environment first and then those of the lines before. -/
def load (env : Environment) (seen : List (String × String)) :
    List (Option (List Char)) → Environment
  | [] | none :: _ => env
  | some line :: more =>
    let meaning (name : String) : String := ((env.get? name).or (seen.lookup name)).getD ""
    match setting? meaning line with
    | none => env
    | some none => load env seen more
    | some (some (key, value)) =>
      let env := if (env.get? key).isSome then env else env ++ [(key, value)]
      load env ((key, value) :: seen) more

/-- The environment together with what a file of variables says. -/
def extend (env : Environment) (text : String) : Environment :=
  let cs := text.toList
  let cs := if cs.head? = some '\uFEFF' then cs.tail else cs
  load env [] (logicalLines [] .plain (physicalLines cs))

end ServiceMesh.Dotenv
