-- Web addresses: read from a text into their one form, and written. The path is resolved, and
-- what may not stand in it is escaped.
import ServiceMesh.Text.Integer
import ServiceMesh.Web.Host

namespace ServiceMesh.Web

structure Url where
  scheme : String
  host : String
  /-- The port, where it is not the one of the scheme. -/
  port : Option Nat := none
  /-- The path between its slashes, escaped. -/
  path : List String
  query : Option String := none
  fragment : Option String := none
  deriving DecidableEq, Repr

/-! ## What is escaped where -/

def escapedInFragment (c : Char) : Bool := c.toNat < 32 || " \"<>`".contains c

def escapedInPath (c : Char) : Bool := escapedInFragment c || "#?\x7b\x7d".contains c

def escapedInQuery (c : Char) : Bool := c.toNat < 32 || " \"#<>'".contains c

/-- All but letters, digits, and four marks. -/
def escapedInForm (c : Char) : Bool := !(c.isAlphanum || "*-._".contains c)

/-! ## Paths -/

def isDot (segment : String) : Bool := Text.lowerAscii segment ∈ [".", "%2e"]

def isDotDot (segment : String) : Bool :=
  Text.lowerAscii segment ∈ ["..", ".%2e", "%2e.", "%2e%2e"]

/-- Resolves the segments that name a place by its surroundings. `done` is the path so far,
the last segment first. -/
def resolve (done : List String) : List String → List String
  | [] => done.reverse
  | [segment] =>
    if isDotDot segment then ("" :: done.tail).reverse
    else if isDot segment then ("" :: done).reverse
    else (segment :: done).reverse
  | segment :: rest =>
    if isDotDot segment then resolve done.tail rest
    else if isDot segment then resolve done rest
    else resolve (segment :: done) rest

/-- The segments of a path; both slashes divide. -/
def segments (cs : List Char) : List (List Char) :=
  match cs with
  | [] => [[]]
  | c :: rest =>
    if c = '/' ∨ c = '\\' then [] :: segments rest
    else match segments rest with
      | [] => [[c]]
      | first :: more => (c :: first) :: more

def pathOf (cs : List Char) : List String :=
  resolve [] ((segments cs).map fun s => String.ofList (escape escapedInPath s))

/-! ## Reading -/

def cutAt (isCut : Char → Bool) (cs : List Char) : List Char × Option (List Char) :=
  match cs.dropWhile (!isCut ·) with
  | [] => (cs, none)
  | _ :: rest => (cs.takeWhile (!isCut ·), some rest)

/-- What is read of a text: no blanks at its ends, and no breaks in it. -/
def readable (s : String) : List Char :=
  let outer (c : Char) : Bool := c.toNat ≤ 32
  let inner := ((s.toList.dropWhile outer).reverse.dropWhile outer).reverse
  inner.filter fun c => !(c = '\t' || c = '\n' || c = '\r')

/-- The scheme, in lower case, and what follows its colon. -/
def scheme? (cs : List Char) : Option (String × List Char) :=
  match cs with
  | c :: _ =>
    match cutAt (· = ':') cs with
    | (scheme, some rest) =>
      if c.isAlpha && scheme.all fun c => c.isAlphanum || "+-.".contains c then
        some (Text.lowerAscii (String.ofList scheme), rest)
      else none
    | (_, none) => none
  | [] => none

/-- The port that a scheme stands for, if it is one of the web's. -/
def schemePort? (scheme : String) : Option Nat :=
  match scheme with
  | "http" => some 80
  | "https" => some 443
  | _ => none

/-- A host, and a port unless it is the scheme's own. Who asks is left out. -/
def authority? (ownPort : Nat) (cs : List Char) : Option (String × Option Nat) := do
  let place := (cs.reverse.takeWhile (· ≠ '@')).reverse
  let (host, port) ← match place with
    | '[' :: _ => match cutAt (· = ']') place with
      | (inner, some []) => some (inner ++ [']'], [])
      | (inner, some (':' :: port)) => some (inner ++ [']'], port)
      | _ => none
    | _ =>
      let (host, port) := cutAt (· = ':') place
      some (host, port.getD [])
  let host ← host? (String.ofList host)
  if port.isEmpty then return (host, none)
  if !port.all Char.isDigit then none
  let number ← (Text.readNatural 16 (String.ofList port)).toOption
  return (host, if number = ownPort then none else some number)

inductive Target where
  | web (url : Url)
  /-- Something of a scheme that is not the web's. -/
  | other (text : String)
  deriving DecidableEq, Repr

/-- Reads a text; without a scheme it names nothing. -/
def Target.parse? (s : String) : Option Target := do
  let (scheme, rest) ← scheme? (readable s)
  let some ownPort := schemePort? scheme |
    return .other (scheme ++ ":" ++ String.ofList (escape (·.toNat < 32) rest))
  let (before, fragment) := cutAt (· = '#') rest
  let (place, query) := cutAt (· = '?') before
  let place := place.dropWhile fun c => c = '/' || c = '\\'
  let (authority, path) := cutAt (fun c => c = '/' || c = '\\') place
  let (host, port) ← authority? ownPort authority
  let written (escaped : Char → Bool) (cs : List Char) : String := String.ofList (escape escaped cs)
  return .web ⟨scheme, host, port, pathOf (path.getD []), query.map (written escapedInQuery),
    fragment.map (written escapedInFragment)⟩

/-! ## Writing -/

namespace Url

/-- The path as it stands on the wire. -/
def pathText (u : Url) : String := String.join (u.path.map ("/" ++ ·))

def text (u : Url) : String :=
  u.scheme ++ "://" ++ u.host ++ (u.port.elim "" fun p => ":" ++ toString p) ++ u.pathText
    ++ u.query.elim "" ("?" ++ ·) ++ u.fragment.elim "" ("#" ++ ·)

/-- A part of a form: what is escaped in forms is escaped, and a blank is a plus sign. -/
def formText (s : String) : String :=
  String.ofList (s.toList.flatMap fun c => if c = ' ' then ['+'] else escape escapedInForm [c])

/-- Adds pairs to the query. Without any, a query that says nothing is left out. -/
def withQuery (u : Url) (pairs : List (String × String)) : Url :=
  let added := pairs.map fun (k, v) => formText k ++ "=" ++ formText v
  let present := (u.query.toList).filter fun q => !q.isEmpty
  match present ++ added with
  | [] => { u with query := none }
  | parts => { u with query := some ("&".intercalate parts) }

end Url

end ServiceMesh.Web
