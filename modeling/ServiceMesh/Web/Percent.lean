-- Percent encoding: a byte written as `%` and two digits.

namespace ServiceMesh.Web

def hexDigit (n : Nat) : Char := if n < 10 then Char.ofNat (48 + n) else Char.ofNat (55 + n)

def escapeByte (b : UInt8) : List Char := ['%', hexDigit (b.toNat / 16), hexDigit (b.toNat % 16)]

/-- Escapes the characters that `escaped` names, and all beyond ASCII. -/
def escape (escaped : Char → Bool) (cs : List Char) : List Char :=
  cs.flatMap fun c =>
    if escaped c || 127 ≤ c.toNat then (String.utf8EncodeChar c).flatMap escapeByte else [c]

def hexValue? (c : Char) : Option Nat :=
  let n := c.toNat
  if 48 ≤ n ∧ n ≤ 57 then some (n - 48)
  else if 97 ≤ n ∧ n ≤ 102 then some (n - 87)
  else if 65 ≤ n ∧ n ≤ 70 then some (n - 55)
  else none

/-- The bytes that a text stands for. A `%` without two digits behind it is itself. -/
def unescape : List Char → List UInt8
  | [] => []
  | '%' :: a :: b :: rest =>
    match hexValue? a, hexValue? b with
    | some x, some y => UInt8.ofNat (x * 16 + y) :: unescape rest
    | _, _ => 37 :: unescape (a :: b :: rest)
  | c :: rest => String.utf8EncodeChar c ++ unescape rest

/-- The text that an escaped text stands for, if its bytes are one. -/
def unescaped? (s : String) : Option String :=
  String.fromUTF8? (ByteArray.mk (unescape s.toList).toArray)

theorem escape_append (escaped : Char → Bool) (a b : List Char) :
    escape escaped (a ++ b) = escape escaped a ++ escape escaped b := by
  simp [escape]

end ServiceMesh.Web
