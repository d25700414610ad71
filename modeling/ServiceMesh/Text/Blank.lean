-- Blank characters, and what is left of a text without the blanks around it.

namespace ServiceMesh.Text

/-- The Unicode property `White_Space`. -/
def isBlank (c : Char) : Bool :=
  let n := c.toNat
  (9 ≤ n && n ≤ 13) || n == 0x20 || n == 0x85 || n == 0xA0 || n == 0x1680 ||
    (0x2000 ≤ n && n ≤ 0x200A) || n == 0x2028 || n == 0x2029 || n == 0x202F ||
    n == 0x205F || n == 0x3000

def trim (s : String) : String :=
  let rest := s.toList.dropWhile isBlank
  String.ofList (rest.reverse.dropWhile isBlank).reverse

/-- A text of blanks only, the empty text among them. -/
def blank (s : String) : Bool := s.toList.all isBlank

/-- ASCII letters in lower case; every other character stays. -/
def lowerAscii (s : String) : String := s.map Char.toLower

end ServiceMesh.Text
