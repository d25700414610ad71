-- What a process notes of its own doings: events for its log, and counts for its metrics.

namespace ServiceMesh

inductive Level where
  | debug
  | info
  | warn
  | error
  deriving DecidableEq, Repr

def Level.name : Level → String
  | .debug => "DEBUG"
  | .info => "INFO"
  | .warn => "WARN"
  | .error => "ERROR"

/-- The value of a field of an event. -/
inductive FieldValue where
  | int (n : Int)
  | flag (b : Bool)
  | text (s : String)
  deriving DecidableEq, Repr

structure Event where
  level : Level
  message : String
  fields : List (String × FieldValue) := []
  deriving DecidableEq, Repr

/-- What is counted: a name, and labels that tell one count of that name from another. -/
structure Series where
  name : String
  labels : List (String × String) := []
  deriving DecidableEq, Repr

/-- The characters of a label's value in a series name. A backslash is written twice, and two
in a row count as one that is written twice already. -/
def labelChars (pending : Bool) : List Char → List Char
  | [] => if pending then ['\\', '\\'] else []
  | '\n' :: rest => (if pending then ['\\', '\\'] else []) ++ '\\' :: 'n' :: labelChars false rest
  | '"' :: rest => '\\' :: '"' :: labelChars false rest
  | '\\' :: rest =>
    if pending then '\\' :: '\\' :: labelChars false rest else labelChars true rest
  | c :: rest => (if pending then ['\\', '\\'] else []) ++ c :: labelChars false rest

/-- The series as it stands in a metrics page. -/
def Series.text (s : Series) : String :=
  if s.labels.isEmpty then s.name
  else
    s.name ++ "\x7b" ++ String.intercalate ","
      (s.labels.map fun (k, v) => k ++ "=\"" ++ String.ofList (labelChars false v.toList) ++ "\"")
      ++ "\x7d"

/-- One thing that a process notes. -/
inductive Note where
  | event (e : Event)
  | count (s : Series) (n : Nat)
  /-- A mark left by a layer that only marks its calls. -/
  | mark (text : String)
  deriving DecidableEq, Repr

namespace Note

def log (level : Level) (message : String) (fields : List (String × FieldValue) := []) : Note :=
  .event ⟨level, message, fields⟩

def counted (name : String) (labels : List (String × String)) (n : Nat := 1) : Note :=
  .count ⟨name, labels⟩ n

def events (notes : List Note) : List Event :=
  notes.filterMap fun
    | .event e => some e
    | _ => none

def marks (notes : List Note) : List String :=
  notes.filterMap fun
    | .mark text => some text
    | _ => none

/-- The metrics as text: what a recorder renders, if there is one. -/
def metricsText (rendered : Option String) : String :=
  rendered.getD "# Metrics recorder not initialized\n"

/-- How far the notes move a series on. -/
def total (s : Series) : List Note → Nat
  | [] => 0
  | .count t n :: rest => (if t = s then n else 0) + total s rest
  | _ :: rest => total s rest

/-- Every series that the notes move on, with the sum of its steps. -/
def totals (notes : List Note) : List (Series × Nat) :=
  let counts := notes.filterMap fun
    | .count s n => if n = 0 then none else some (s, n)
    | _ => none
  counts.foldl (fun sums (s, n) =>
    if sums.any (·.1 = s) then sums.map (fun (t, m) => if t = s then (t, m + n) else (t, m))
    else sums ++ [(s, n)]) []

@[simp] theorem total_nil (s : Series) : total s [] = 0 := rfl

@[simp] theorem total_append (s : Series) (a b : List Note) :
    total s (a ++ b) = total s a + total s b := by
  induction a with
  | nil => simp [total]
  | cons note rest ih => cases note <;> simp [total, ih, Nat.add_assoc]

@[simp] theorem events_append (a b : List Note) : events (a ++ b) = events a ++ events b := by
  simp [events]

@[simp] theorem marks_append (a b : List Note) : marks (a ++ b) = marks a ++ marks b := by
  simp [marks]

end Note

end ServiceMesh
