-- The environment of a process, and how single settings are read from it.
import ServiceMesh.Failure.Basic
import ServiceMesh.Text.Blank
import ServiceMesh.Text.Integer

namespace ServiceMesh

abbrev Environment := List (String × String)

namespace Environment

def get? (env : Environment) (key : String) : Option String := env.lookup key

/-- A variable that says something. -/
def present? (env : Environment) (key : String) : Option String :=
  (env.get? key).filter fun v => !Text.blank v

/-- Whether the process does real work. -/
def isProd (env : Environment) : Bool := env.get? "ENVIRONMENT" == some "prod"

def missing (key : String) (prod : Bool) : Failure :=
  .configuration (key ++ " is required " ++ (if prod then "in production " else "")
    ++ "but not set" : String)

/-- A variable, or its default. Real work has no defaults. -/
def require (env : Environment) (key : String) (default : Option String) (prod : Bool) :
    Except Failure String :=
  match env.get? key, prod, default with
  | some v, _, _ => .ok v
  | none, false, some d => .ok d
  | none, _, _ => .error (missing key prod)

/-- A variable as `read` understands it, or its default. -/
def parsed {α : Type} (env : Environment) (key : String) (read : String → Except String α)
    (default : α) : Except Failure α :=
  match env.get? key with
  | none => .ok default
  | some raw =>
    match read raw with
    | .ok x => .ok x
    | .error message =>
      .error (.configuration
        (key ++ " has invalid value \x27" ++ raw ++ "\x27: " ++ message : String))

end Environment

/-! ## Values as variables have them -/

namespace Text

def asInteger (range : IntegerRange) (s : String) : Except String Int :=
  (readInteger range s).mapError IntegerError.message

def asNatural (bits : Nat) (s : String) : Except String Nat :=
  (readNatural bits s).mapError IntegerError.message

def asFlag (s : String) : Except String Bool :=
  match s with
  | "true" => .ok true
  | "false" => .ok false
  | _ => .error "provided string was not \x60true\x60 or \x60false\x60"

def asCharacter (s : String) : Except String Char :=
  match s.toList with
  | [] => .error "cannot parse char from empty string"
  | [c] => .ok c
  | _ => .error "too many characters in string"

end Text

end ServiceMesh
