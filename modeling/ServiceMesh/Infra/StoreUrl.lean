-- Addresses of stores: a scheme of their own, a host, a port, a path.
import ServiceMesh.Web.Url

namespace ServiceMesh.Infra

inductive UrlFault where
  | noScheme
  | emptyHost
  | hostCharacter
  | addressV4
  | addressV6
  | port
  deriving DecidableEq, Repr

def UrlFault.message : UrlFault → String
  | .noScheme => "relative URL without a base"
  | .emptyHost => "empty host"
  | .hostCharacter => "invalid domain character"
  | .addressV4 => "invalid IPv4 address"
  | .addressV6 => "invalid IPv6 address"
  | .port => "invalid port number"

structure StoreUrl where
  scheme : String
  host? : Option String
  port : Option Nat
  /-- The path, with its slashes. -/
  path : String
  deriving DecidableEq, Repr

namespace StoreUrl

def hostForbidden (c : Char) : Bool := c.toNat = 0 || "\t\n\r #/:<>?@[\\]^|".contains c

/-- The host of an address whose scheme is not the web's: any name, as it stands. -/
def hostOf (cs : List Char) : Except UrlFault (Option String) :=
  match cs with
  | [] => .ok none
  | '[' :: _ =>
    match Web.host? (String.ofList cs) with
    | some host => .ok (some host)
    | none => .error .addressV6
  | _ => if cs.any hostForbidden then .error .hostCharacter else .ok (some (String.ofList cs))

def webHostOf (cs : List Char) : Except UrlFault (Option String) :=
  let text := String.ofList cs
  match Web.host? text with
  | some host => .ok (some host)
  | none =>
    if cs.isEmpty then .error .emptyHost
    else if cs.head? = some '[' then .error .addressV6
    else if Web.endsInNumber text then .error .addressV4
    else .error .hostCharacter

def portOf (cs : List Char) : Except UrlFault (Option Nat) :=
  if cs.isEmpty then .ok none
  else if !cs.all Char.isDigit then .error .port
  else match Text.readNatural 16 (String.ofList cs) with
    | .ok n => .ok (some n)
    | .error _ => .error .port

/-- Reads an address. Without two slashes behind the scheme there is no host. -/
def parse (s : String) : Except UrlFault StoreUrl := do
  let some (scheme, rest) := Web.scheme? (Web.readable s) | throw .noScheme
  let isWeb := (Web.schemePort? scheme).isSome
  match rest with
  | '/' :: '/' :: rest =>
    let rest := rest.takeWhile fun c => !(c = '?' || c = '#')
    let authority := rest.takeWhile (· ≠ '/')
    let path := String.ofList (rest.dropWhile (· ≠ '/'))
    let place := (authority.reverse.takeWhile (· ≠ '@')).reverse
    let (host, port) := match place with
      | '[' :: _ =>
        (place.takeWhile (· ≠ ']') ++ (place.dropWhile (· ≠ ']')).take 1,
          (place.dropWhile (· ≠ ']')).drop 2)
      | _ => (place.takeWhile (· ≠ ':'), (place.dropWhile (· ≠ ':')).drop 1)
    let host? ← if isWeb then webHostOf host else hostOf host
    return ⟨scheme, host?, ← portOf port, path⟩
  | _ =>
    if isWeb then throw .emptyHost
    return ⟨scheme, none, none, String.ofList (rest.takeWhile fun c => !(c = '?' || c = '#'))⟩

end StoreUrl

end ServiceMesh.Infra
