-- Internet addresses in both of their forms, read and written.

namespace ServiceMesh.Http

inductive IpAddress where
  /-- Four bytes. -/
  | v4 (a b c d : Nat)
  /-- Eight groups of 16 bits. -/
  | v6 (groups : List Nat)
  deriving DecidableEq, Repr

namespace IpAddress

/-- Reads a number of at most `maxDigits` digits and at most `limit`. -/
def number (base maxDigits limit : Nat) (zeroFirst : Bool) (cs : List Char) :
    Option (Nat × List Char) :=
  let value? (c : Char) : Option Nat :=
    let n := c.toNat
    let v := if 48 ≤ n && n ≤ 57 then n - 48
      else if 97 ≤ n && n ≤ 102 then n - 87
      else if 65 ≤ n && n ≤ 70 then n - 55 else base
    if v < base then some v else none
  let ds := cs.takeWhile fun c => (value? c).isSome
  let n := ds.foldl (fun n c => n * base + (value? c).getD 0) 0
  if ds.isEmpty || maxDigits < ds.length || limit < n then none
  else if !zeroFirst && cs.head? == some '0' && 1 < ds.length then none
  else some (n, cs.drop ds.length)

def sign (c : Char) : List Char → Option (List Char)
  | d :: rest => if c = d then some rest else none
  | [] => none

def readV4 (cs : List Char) : Option ((Nat × Nat × Nat × Nat) × List Char) := do
  let byte := number 10 3 255 false
  let (a, cs) ← byte cs
  let (b, cs) ← byte (← sign '.' cs)
  let (c, cs) ← byte (← sign '.' cs)
  let (d, cs) ← byte (← sign '.' cs)
  return ((a, b, c, d), cs)

/-- Reads up to `room` groups with colons between; the last two may be four bytes. Gives the
groups, whether they end in four bytes, and what follows. -/
def readGroups (first : Bool) : (room : Nat) → List Char → List Nat × Bool × List Char
  | 0, cs => ([], false, cs)
  | room + 1, cs =>
    -- A colon stands before every group but the first.
    let behind : Option (List Char) := if first then some cs else sign ':' cs
    match behind with
    | none => ([], false, cs)
    | some inner =>
      -- Four bytes take the room of two groups.
      match (if 0 < room then readV4 inner else none) with
      | some ((a, b, c, d), rest) => ([a * 256 + b, c * 256 + d], true, rest)
      | none =>
        match number 16 4 65535 true inner with
        | none => ([], false, cs)
        | some (g, rest) =>
          let (gs, endsV4, rest) := readGroups false room rest
          (g :: gs, endsV4, rest)

/-- Reads eight groups; two colons stand for one group of zeros or more. -/
def readV6 (cs : List Char) : Option (List Nat × List Char) :=
  let (front, endsV4, rest) := readGroups true 8 cs
  if front.length = 8 then some (front, rest)
  -- Four bytes end an address: no colons may follow them.
  else if endsV4 then none
  else do
    let rest ← sign ':' (← sign ':' rest)
    -- The two colons stand for one group at least.
    let (back, _, rest) := readGroups true (7 - front.length) rest
    return (front ++ List.replicate (8 - front.length - back.length) 0 ++ back, rest)

def parse? (s : String) : Option IpAddress :=
  match readV4 s.toList with
  | some ((a, b, c, d), rest) => if rest.isEmpty then some (.v4 a b c d) else none
  | none =>
    match readV6 s.toList with
    | some (groups, []) => some (.v6 groups)
    | _ => none

/-- The address of a peer that is given with its port. -/
def ofPeer? (s : String) : Option IpAddress :=
  let cs := s.toList
  match cs with
  | '[' :: rest => parse? (String.ofList (rest.takeWhile (· ≠ ']')))
  | _ => parse? (String.ofList (cs.takeWhile (· ≠ ':')))

/-- Where the longest run of zeros starts, and its length; the first of equals. -/
def longestZeros (groups : List Nat) : Nat × Nat :=
  let run (i : Nat) : Nat := ((groups.drop i).takeWhile (· = 0)).length
  (List.range groups.length).foldl
    (fun best i => if best.2 < run i then (i, run i) else best) (0, 0)

def hex (n : Nat) : String := String.ofList (Nat.toDigits 16 n)

def dotted (a b c d : Nat) : String := ".".intercalate ([a, b, c, d].map toString)

def text : IpAddress → String
  | .v4 a b c d => dotted a b c d
  | .v6 groups =>
    match groups with
    | [0, 0, 0, 0, 0, 0xFFFF, g, h] => "::ffff:" ++ dotted (g / 256) (g % 256) (h / 256) (h % 256)
    | _ =>
      let (start, length) := longestZeros groups
      let join (gs : List Nat) : String := ":".intercalate (gs.map hex)
      if 1 < length then join (groups.take start) ++ "::" ++ join (groups.drop (start + length))
      else join groups

end IpAddress

end ServiceMesh.Http
