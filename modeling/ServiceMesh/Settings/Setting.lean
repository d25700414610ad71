-- Settings out of several places, each laid over those before it, and the port read from
-- them.
import ServiceMesh.Settings.Environment
import ServiceMesh.Json.Value

namespace ServiceMesh

/-- The value of a setting. What a list or a table holds is not asked for. -/
inductive Setting where
  | unit
  | flag (b : Bool)
  | int (n : Int)
  | float (x : Float)
  | text (s : String)
  | list
  | table (isEmpty : Bool)

def Setting.found : Setting → String
  | .unit => "unit value"
  | .flag b => "boolean \x60" ++ (if b then "true" else "false") ++ "\x60"
  | .int n => "64-bit integer \x60" ++ toString n ++ "\x60"
  | .float x => "floating point \x60" ++ Json.floatText x ++ "\x60"
  | .text s => "string " ++ Text.quote s
  | .list => "sequence"
  | .table _ => "map"

inductive SettingsFault where
  | text (message : String)
  | notFound (key : String)
  | frozen
  /-- A value of the wrong type, with its key and where it was set. -/
  | wrongType (found expected : String) (key origin : Option String)
  /-- A file that cannot be read. -/
  | unreadable (cause file : String)
  deriving DecidableEq, Repr

def SettingsFault.message : SettingsFault → String
  | .text message => message
  | .notFound key => "configuration property " ++ Text.quote key ++ " not found"
  | .frozen => "configuration is frozen"
  | .wrongType found expected key origin =>
    "invalid type: " ++ found ++ ", expected " ++ expected
      ++ key.elim "" (" for key \x60" ++ · ++ "\x60") ++ origin.elim "" (" in " ++ ·)
  | .unreadable cause file => cause ++ " in " ++ file

namespace Setting

/-! ## Layers -/

/-- Settings by name, each with where it was set. -/
abbrev Layers := List (String × Setting × Option String)

/-- Where a name leads: to a setting, or into a table or a list that is one. -/
inductive Place where
  | here (key : String)
  | inTable (key : String)
  | inList (key : String)
  deriving DecidableEq, Repr

def isNameChar (c : Char) : Bool := c.isAlphanum || c = ' ' || c = '_' || c = '-'

/-- Reads a name: points lead into tables, and numbers in brackets into lists. A name that is
neither stands for itself. -/
def placeOf (name : String) : Place :=
  let key := String.ofList (name.toList.takeWhile isNameChar)
  match name.toList.dropWhile isNameChar with
  | '.' :: c :: _ => if isNameChar c then .inTable key else .here name
  | '[' :: rest =>
    let digits := rest.takeWhile fun c => c.isDigit || c = ' ' || c = '-'
    if digits.any Char.isDigit && (rest.drop digits.length).head? = some ']' then .inList key
    else .here name
  | _ => .here name

def put (key : String) (value : Setting × Option String) (l : Layers) : Layers :=
  l.filter (·.1 != key) ++ [(key, value)]

/-- Lays a setting over those before. A table is merged with what is there, so that an empty
one changes nothing. -/
def lay (l : Layers) (name : String) (value : Setting) (origin : Option String) : Layers :=
  match placeOf name, value with
  | .inTable key, _ => put key (.table false, none) l
  | .inList key, _ => put key (.list, none) l
  | .here key, .table true => if (l.lookup key).isSome then l else put key (.table true, none) l
  | .here key, .table false => put key (.table false, none) l
  | .here key, value => put key (value, origin) l

def layAll (l : Layers) (settings : List (String × Setting)) (origin : String) : Layers :=
  settings.foldl (fun l (name, value) => lay l name value (some origin)) l

/-- The settings in an environment: the variables that begin with `APP__` in any case, in lower
case, with `__` for a point. -/
def ofEnvironment (env : Environment) : List (String × Setting) :=
  env.filterMap fun (key, value) =>
    let key := Text.lowerAscii key
    if key.startsWith "app__" then
      some (((key.drop 5).toString).replace "__" ".", .text value)
    else none

/-! ## Numbers -/

/-- Reads the natural number of 64 bits that a key is set to: also from a truth value, from a
fraction by rounding, and from a text that is a number or a truth value. -/
def natural (key : String) (value : Setting) (origin : Option String) :
    Except SettingsFault Nat :=
  let wrong (expected : String) : Except SettingsFault Nat :=
    .error (.wrongType value.found expected (some key) origin)
  match value with
  | .int n => if 0 ≤ n then .ok n.toNat else wrong "an unsigned 64 bit or less integer"
  | .flag b => .ok (if b then 1 else 0)
  | .float x => .ok x.round.toUInt64.toNat
  | .text s =>
    if Text.lowerAscii s ∈ ["true", "on", "yes"] then .ok 1
    else if Text.lowerAscii s ∈ ["false", "off", "no"] then .ok 0
    else match Text.readNatural 64 s with
      | .ok n => .ok n
      | .error _ => wrong "an integer"
  | .unit | .list | .table _ => wrong "an integer"

def defaultPort : Nat := 8080

def port (l : Layers) : Except SettingsFault Nat :=
  match l.lookup "port" with
  | none => .ok defaultPort
  | some (value, origin) =>
    match natural "port" value origin with
    | .error f => .error f
    | .ok n =>
      if n < 65536 then .ok n
      else .error (.wrongType ("64-bit unsigned integer \x60" ++ toString n ++ "\x60")
        "an unsigned 16 bit integer" (some "port") none)

end Setting

end ServiceMesh
