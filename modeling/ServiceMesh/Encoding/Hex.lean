-- Bytes and numbers written in base 16.

namespace ServiceMesh.Encoding

/-- The value of a digit; letters count in either case. -/
def hexDigitValue (c : Char) : Nat :=
  if c.isDigit then c.toNat - 48 else c.toLower.toNat - 87

def hexBytes : List Char → List UInt8
  | a :: b :: rest => UInt8.ofNat (hexDigitValue a * 16 + hexDigitValue b) :: hexBytes rest
  | _ => []

def hexNumber (s : String) : Nat := s.toList.foldl (fun n c => n * 16 + hexDigitValue c) 0

end ServiceMesh.Encoding
