-- Files of settings, by the endings of their names.
import ServiceMesh.Json.Shape
import ServiceMesh.Settings.Dotenv
import ServiceMesh.Settings.Toml

namespace ServiceMesh

namespace Setting

/-! ## JSON -/

def ofJson : Json → Setting
  | .null => .unit
  | .bool b => .flag b
  | .int n => if Text.IntegerRange.contains (.signed 64) n then .int n else .float (Float.ofInt n)
  | .float x => .float x
  | .text s => .text s
  | .array _ => .list
  | .object fields => .table fields.isEmpty

/-- What a whole file holds: settings by name, or something else. -/
abbrev Content := Except Setting (List (String × Setting))

def readJson (text : String) : Except String Content :=
  match Json.parse text with
  | .error f => .error (f.message text.toUTF8.toList)
  | .ok (.object fields) => .ok (.ok (fields.map fun (k, v) => (k, ofJson v)))
  | .ok other => .ok (.error (ofJson other))

/-! ## Lines of names and values -/

/-- What stands in quotes, or the text as it is. -/
def unquoted (s : String) : String × Bool :=
  match s.toList with
  | q :: rest =>
    if (q = '"' || q = '\x27') && rest.getLast? = some q then (String.ofList rest.dropLast, true)
    else (s, false)
  | [] => (s, false)

/-- A name and a value with one of these characters between. -/
def nameAndValue? (between : Char → Bool) (line : String) : Option (String × String) :=
  match line.toList.dropWhile fun c => !between c with
  | _ :: rest =>
    some (Text.trim (String.ofList (line.toList.takeWhile fun c => !between c)),
      Text.trim (String.ofList rest))
  | [] => none

/-- Sections of names and values. Every value is a text. -/
def readIni (text : String) : Content :=
  let step (s : List (String × Setting) × Option String) (line : String) :
      List (String × Setting) × Option String :=
    let line := Text.trim line
    match line.toList with
    | [] | ';' :: _ | '#' :: _ => s
    | '[' :: rest =>
      let name := Text.trim (String.ofList (rest.takeWhile (· ≠ ']')))
      (s.1 ++ [(name, .table true)], some name)
    | _ =>
      match nameAndValue? (fun c => c = '=' || c = ':') line, s.2 with
      | some (name, value), none => (s.1 ++ [(name, .text (unquoted value).1)], none)
      | some _, some header => (s.1 ++ [(header, .table false)], some header)
      | none, _ => s
  .ok ((text.splitOn "\n").foldl step ([], none)).1

def plainYaml (s : String) : Setting :=
  match unquoted s with
  | (inner, true) => .text inner
  | (s, false) =>
    match s with
    | "" | "~" | "null" => .unit
    | "true" => .flag true
    | "false" => .flag false
    | s =>
      match s.toList with
      | '[' :: _ => .list
      | '\x7b' :: rest => .table (Text.trim (String.ofList rest) == "\x7d")
      | '0' :: 'x' :: cs => ((Toml.radixNumber? 16 cs).map Setting.int).getD (.text s)
      | '0' :: 'o' :: cs => ((Toml.radixNumber? 8 cs).map Setting.int).getD (.text s)
      | _ =>
        match Text.readInteger (.signed 64) s, Toml.fraction? s with
        | .ok n, _ => .int n
        | _, some x => .float x
        | _, none => .text s

/-- A line without its comment. -/
def withoutComment (line : List Char) : (afterBlank : Bool) → List Char
  | afterBlank =>
    match line with
    | [] => []
    | '#' :: rest => if afterBlank then [] else '#' :: withoutComment rest false
    | c :: rest => c :: withoutComment rest (c = ' ' || c = '\t')

/-- Names and values, a line each. What is indented belongs to the name above. -/
def readYaml (text : String) : Content :=
  let lines := ((text.splitOn "\n").map fun l =>
    String.ofList (withoutComment (l.toList.filter (· ≠ '\r')) true)).filter fun l =>
      !Text.blank l && Text.trim l != "---"
  let step (settings : List (String × Setting)) (line : String) : List (String × Setting) :=
    if line.startsWith " " || line.startsWith "- " then
      let inner : Setting := if (Text.trim line).startsWith "-" then .list else .table false
      match settings.getLast? with
      | some (name, .unit) => settings.dropLast ++ [(name, inner)]
      | _ => settings
    else match nameAndValue? (· = ':') line with
      | some (name, value) => settings ++ [((unquoted name).1, plainYaml value)]
      | none => settings
  -- A single line without a colon is no table but a plain value.
  match lines with
  | [line] => if line.contains ':' then .ok (step [] line) else .error (plainYaml (Text.trim line))
  | lines => .ok (lines.foldl step [])

/-! ## By the ending -/

/-- Reads a text of a format, if the ending is one of a format. -/
def readers : List (String × (String → Except String Content)) :=
  [("toml", fun text => (Toml.read text).map .ok), ("json", readJson),
    ("yaml", fun text => .ok (readYaml text)), ("yml", fun text => .ok (readYaml text)),
    ("ini", fun text => .ok (readIni text)), ("json5", readJson)]

/-- The settings in the file `configuration`, whatever its format. Without one there are
none. -/
def ofFiles (files : List (String × String)) :
    Except SettingsFault (Option (String × List (String × Setting))) :=
  let found : Option (String × Except String Content) := readers.findSome? fun (ending, read) =>
    let name := "configuration." ++ ending
    (files.lookup name).map fun text => (name, read text)
  match found with
  | none => .ok none
  | some (name, .ok (.ok settings)) => .ok (some (name, settings))
  | some (name, .ok (.error other)) =>
    let fault : SettingsFault := .wrongType other.found "a map" none (some name)
    .error (.unreadable fault.message name)
  | some (name, .error cause) => .error (.unreadable cause name)

end Setting

/-! ## Where a process starts -/

/-- The environment of a process, and the files beside it. -/
structure Workplace where
  environment : Environment
  files : List (String × String) := []

namespace Workplace

def extended (w : Workplace) : Environment :=
  match w.files.lookup ".env" with
  | some text => Dotenv.extend w.environment text
  | none => w.environment

end Workplace

end ServiceMesh
