-- Connection texts of document stores: a scheme, who asks, the hosts with commas between, a
-- database, and options.
import ServiceMesh.Text.Integer
import ServiceMesh.Web.Url

namespace ServiceMesh.Infra

inductive MongoFault where
  | noScheme
  | foreignScheme (scheme : String)
  | noHosts
  | noSlash
  | databaseNotEncoded
  | databaseCharacter
  | hostEmpty (place : String)
  | portNoNumber (text : String)
  | portZero (place : String)
  | colonTwice (place : String)
  | recordWithPort
  | recordWithSocket
  | recordNotSingle
  | optionNoPair (text : String)
  | optionTwice
  deriving DecidableEq, Repr

def MongoFault.message : MongoFault → String
  | .noScheme => "connection string contains no scheme"
  | .foreignScheme scheme => "invalid connection string scheme: " ++ scheme
  | .noHosts => "missing hosts"
  | .noSlash => "Missing delimiting slash between hosts and options"
  | .databaseNotEncoded => "database name must be URL encoded"
  | .databaseCharacter => "illegal character in database name"
  | .hostEmpty place => "invalid server address: \"" ++ place ++ "\"; hostname cannot be empty"
  | .portNoNumber text => "port must be valid 16-bit unsigned integer, instead got: " ++ text
  | .portZero place => "invalid server address: \"" ++ place ++ "\"; port must be non-zero"
  | .colonTwice place => "address \"" ++ place ++ "\" contains more than one unescaped \x27:\x27"
  | .recordWithPort => "a port cannot be specified with \x27mongodb+srv\x27"
  | .recordWithSocket => "unix sockets cannot be used with \x27mongodb+srv\x27"
  | .recordNotSingle => "exactly one host must be specified with \x27mongodb+srv\x27"
  | .optionNoPair text =>
    "connection string options is not a \x60key=value\x60 pair: " ++ text
  | .optionTwice => "repeated options are not allowed in the connection string"

/-- Where one server of a store is. -/
inductive MongoPlace where
  | socket (path : String)
  | host (name : String) (port : Option Nat)
  deriving DecidableEq, Repr

def MongoPlace.parse (s : String) : Except MongoFault MongoPlace :=
  if s.endsWith ".sock" then .ok (.socket s)
  else
    match s.splitOn ":" with
    | "" :: _ => .error (.hostEmpty s)
    | [name] => .ok (.host name none)
    | name :: port :: more =>
      match Text.readNatural 16 port with
      | .error _ => .error (.portNoNumber port)
      | .ok 0 => .error (.portZero s)
      | .ok n => if more.isEmpty then .ok (.host name (some n)) else .error (.colonTwice s)
    | [] => .error (.hostEmpty s)

/-- The places of a store: its servers, or a record that tells of them. -/
inductive MongoPlaces where
  | servers (places : List MongoPlace)
  | record (name : String)
  deriving DecidableEq, Repr

/-- The text behind `://`, and whether the scheme asks for a record. -/
def mongoScheme (s : String) : Except MongoFault (Bool × List Char) :=
  match s.splitOn "://" with
  | [] | [_] => .error .noScheme
  | scheme :: rest =>
    let rest := ("://".intercalate rest).toList
    match scheme with
    | "mongodb" => .ok (false, rest)
    | "mongodb+srv" => .ok (true, rest)
    | other => .error (.foreignScheme other)

/-- Options are pairs with `&` between; no name comes twice, one apart. -/
def checkMongoOptions (seen : List String) : List String → Except MongoFault Unit
  | [] => .ok ()
  | pair :: rest =>
    match Web.cutAt (· = '=') pair.toList with
    | (_, none) => .error (.optionNoPair pair)
    | (name, some _) =>
      let name := String.ofList name
      if Text.lowerAscii name != "readpreferencetags" && seen.contains name then
        .error .optionTwice
      else checkMongoOptions (name :: seen) rest

/-- The database is escaped, and free of characters that no name has. -/
def checkMongoDatabase (s : String) : Except MongoFault Unit :=
  match Web.unescaped? s with
  | none => .error .databaseNotEncoded
  | some name =>
    if name.toList.any fun c => "/\\ \"$.".contains c then .error .databaseCharacter else .ok ()

def MongoPlaces.parse (s : String) : Except MongoFault MongoPlaces := do
  let (asksRecord, rest) ← mongoScheme s
  let (place, tail) := Web.cutAt (· = '/') rest
  match tail with
  | some tail =>
    if place.isEmpty then throw .noHosts
    let (database, options) := Web.cutAt (· = '?') tail
    checkMongoDatabase (String.ofList database)
    let hosts ← hostsOf place
    let found ← placesOf asksRecord hosts
    match options with
    | some (c :: cs) => checkMongoOptions [] ((String.ofList (c :: cs)).splitOn "&")
    | _ => pure ()
    return found
  | none =>
    if place.contains '?' then throw .noSlash
    placesOf asksRecord (← hostsOf place)
where
  /-- The hosts stand behind the last `@`, if there is one. -/
  hostsOf (place : List Char) : Except MongoFault (List MongoPlace) := do
    let hosts := (place.reverse.takeWhile (· ≠ '@')).reverse
    if hosts.isEmpty && place.contains '@' then throw .noHosts
    ((String.ofList hosts).splitOn ",").mapM MongoPlace.parse
  placesOf (asksRecord : Bool) (places : List MongoPlace) : Except MongoFault MongoPlaces :=
    if !asksRecord then .ok (.servers places)
    else match places with
      | [.host name none] => .ok (.record name)
      | [.host _ (some _)] => .error .recordWithPort
      | [.socket _] => .error .recordWithSocket
      | _ => .error .recordNotSingle

end ServiceMesh.Infra
