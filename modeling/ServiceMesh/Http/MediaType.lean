-- Media types, as far as it takes to tell whether a body is said to be JSON.
import ServiceMesh.Text.Blank

namespace ServiceMesh.Http

def isTokenChar (c : Char) : Bool :=
  c.isAlphanum || ['!', '#', '$', '%', '&', '\x27', '*', '+', '-', '.', '^', '_', '\x60', '|',
    '~'].contains c

def isQuotedChar (c : Char) : Bool := 31 < c.toNat && c.toNat ≠ 127

inductive ParameterStage where
  | beforeName
  | name
  | beforeValue
  | value
  | beforeQuoted
  | quoted
  | behindQuoted

namespace ParameterStage

def next (c : Char) : ParameterStage → Option ParameterStage
  | .beforeName =>
    if c = ' ' then some .beforeName else if isTokenChar c then some .name else none
  | .name => if c = '=' then some .beforeValue else if isTokenChar c then some .name else none
  | .beforeValue =>
    if c = '"' then some .beforeQuoted else if isTokenChar c then some .value else none
  | .value => if c = ';' then some .beforeName else if isTokenChar c then some .value else none
  | .beforeQuoted => if isQuotedChar c then some .quoted else none
  | .quoted =>
    if c = '"' then some .behindQuoted else if isQuotedChar c then some .quoted else none
  | .behindQuoted =>
    if c = ';' then some .beforeName else if c = ' ' then some .behindQuoted else none

def complete : ParameterStage → Bool
  | .beforeName | .beforeValue | .value | .behindQuoted => true
  | .name | .beforeQuoted | .quoted => false

end ParameterStage

def isParameters (cs : List Char) : Bool :=
  match cs.foldlM (fun stage c => ParameterStage.next c stage) ParameterStage.beforeName with
  | some stage => stage.complete
  | none => false

/-- Whether a media type says JSON: `application/json`, or an application type whose name ends
in `+json`. -/
def saysJson (mediaType : String) : Bool :=
  let cs := (Text.lowerAscii mediaType).toList
  let top := cs.takeWhile isTokenChar
  match cs.dropWhile isTokenChar with
  | '/' :: rest =>
    let subtype := rest.takeWhile isTokenChar
    let wellFormed := match rest.dropWhile isTokenChar with
      | [] => true
      | c :: parameters => c = ';' && !subtype.isEmpty && isParameters parameters
    -- What stands behind the last plus sign; one at the front is part of the name.
    let suffix := (subtype.drop 1).reverse.takeWhile (· ≠ '+')
    let plain := match subtype with
      | [] => true
      | _ :: tail => !tail.contains '+'
    let base := if plain then subtype else subtype.take (subtype.length - suffix.length - 1)
    wellFormed && String.ofList top == "application"
      && (String.ofList base == "json" || (!plain && String.ofList suffix.reverse == "json"))
  | _ => false

end ServiceMesh.Http
