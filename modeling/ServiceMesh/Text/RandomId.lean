-- Random ids: 32 hexadecimal digits in five groups, the third of which begins with 4.

namespace ServiceMesh.Text

/-- Whether a text has the form of a random id. -/
def isRandomId (s : String) : Bool :=
  s.length == 36 && s.toList.zipIdx.all fun (c, n) =>
    if [8, 13, 18, 23].contains n then c == '-'
    else if n == 14 then c == '4' else c.isDigit || "abcdef".contains c

end ServiceMesh.Text
