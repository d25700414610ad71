-- The host of a web address: a name in lower case, or an internet address in its shortest
-- form.
import ServiceMesh.Http.Address
import ServiceMesh.Text.Blank
import ServiceMesh.Web.Percent

namespace ServiceMesh.Web

def hostForbidden (c : Char) : Bool :=
  c.toNat ≤ 32 || c.toNat = 127 || "#/:<>?@[\\]^|%".contains c

/-- Reads a number as hosts have them: `0x` for base 16, `0` for base 8. -/
def hostNumber? (s : String) : Option Nat :=
  let read (base : Nat) (cs : List Char) : Option Nat :=
    cs.foldl (fun n c => do
      let v ← hexValue? c
      if v < base then return (← n) * base + v else none) (some 0)
  match s.toList with
  | [] => none
  | '0' :: 'x' :: cs | '0' :: 'X' :: cs => read 16 cs
  | '0' :: c :: cs => read 8 (c :: cs)
  | cs => read 10 cs

/-- The labels of a name, without an empty one at the end. -/
def hostLabels (s : String) : List String :=
  let labels := s.splitOn "."
  if 1 < labels.length && labels.getLast? == some "" then labels.dropLast else labels

/-- A name whose last label is a number stands for an address of four bytes. -/
def endsInNumber (s : String) : Bool :=
  match (hostLabels s).getLast? with
  | some last => (!last.isEmpty && last.all Char.isDigit)
      || ((last.startsWith "0x" || last.startsWith "0X") && (hostNumber? last).isSome)
  | none => false

/-- Four bytes out of up to four numbers; the last one fills what the others leave. -/
def fourBytes? (numbers : List Nat) : Option (List Nat) :=
  match numbers.reverse with
  | [] => none
  | last :: before =>
    let room := 4 - before.length
    if 3 < before.length || before.any (255 < ·) || Nat.pow 256 room ≤ last then none
    else some (before.reverse
      ++ (List.range room).reverse.map fun i => last / Nat.pow 256 i % 256)

/-- Eight groups as they stand in a web address: never in four bytes at the end. -/
def groupsText (groups : List Nat) : String :=
  let (start, length) := Http.IpAddress.longestZeros groups
  let join (gs : List Nat) : String := ":".intercalate (gs.map Http.IpAddress.hex)
  if 1 < length then join (groups.take start) ++ "::" ++ join (groups.drop (start + length))
  else join groups

/-- The host that a text names, in its one form. -/
def host? (s : String) : Option String :=
  match s.toList with
  | '[' :: rest =>
    if rest.getLast? = some ']' then
      match Http.IpAddress.parse? (String.ofList rest.dropLast) with
      | some (.v6 groups) => some ("[" ++ groupsText groups ++ "]")
      | _ => none
    else none
  | _ => do
    let name := Text.lowerAscii (← unescaped? s)
    if name.isEmpty || name.toList.any hostForbidden then none
    else if endsInNumber name then
      let bytes ← fourBytes? (← (hostLabels name).mapM hostNumber?)
      return ".".intercalate (bytes.map toString)
    else return name

end ServiceMesh.Web
