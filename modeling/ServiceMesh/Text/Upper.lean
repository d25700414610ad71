-- Upper-casing by Unicode's full default mapping: a letter may become several
-- (`ß` becomes `SS`), and no rule depends on a language or on the letters around.
import ServiceMesh.Text.Ranges
import ServiceMesh.Text.UpperTable

namespace ServiceMesh.Text

def upperChar (c : Char) : List Char :=
  let n := c.toNat
  if n < 0x80 then [c.toUpper]
  else
    match findRow upperExpansions (fun row => (row.1, row.1)) n 0 upperExpansions.size with
    | some (_, letters) => letters.map Char.ofNat
    | none =>
      match findRow upperRuns (fun row => (row.1, row.2.1)) n 0 upperRuns.size with
      | some (first, _, step, upper) =>
        if (n - first) % step = 0 then [Char.ofNat (upper + (n - first))] else [c]
      | none => [c]

def upper (s : String) : String := String.ofList (s.toList.flatMap upperChar)

end ServiceMesh.Text
