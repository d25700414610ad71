-- Base64 without padding, in the two alphabets, and what is wrong with a text that is not
-- the base64 form of any bytes.

namespace ServiceMesh.Encoding

/-- The two symbols behind letters and digits. -/
structure Alphabet where
  symbol62 : UInt8
  symbol63 : UInt8

namespace Alphabet

def standard : Alphabet := ⟨43, 47⟩

/-- `-` and `_`, safe inside a URL. -/
def urlSafe : Alphabet := ⟨45, 95⟩

def symbol (a : Alphabet) (n : Nat) : UInt8 :=
  if n < 26 then (65 + n).toUInt8
  else if n < 52 then (71 + n).toUInt8
  else if n < 62 then (n - 4).toUInt8
  else if n = 62 then a.symbol62
  else a.symbol63

def value? (a : Alphabet) (b : UInt8) : Option Nat :=
  if 65 ≤ b && b ≤ 90 then some (b.toNat - 65)
  else if 97 ≤ b && b ≤ 122 then some (b.toNat - 71)
  else if 48 ≤ b && b ≤ 57 then some (b.toNat + 4)
  else if b = a.symbol62 then some 62
  else if b = a.symbol63 then some 63
  else none

def encodeBytes (al : Alphabet) : List UInt8 → List UInt8
  | a :: b :: c :: rest =>
    let n := a.toNat * 65536 + b.toNat * 256 + c.toNat
    al.symbol (n / 262144) :: al.symbol (n / 4096 % 64) :: al.symbol (n / 64 % 64) ::
      al.symbol (n % 64) :: encodeBytes al rest
  | [a, b] =>
    let n := a.toNat * 256 + b.toNat
    [al.symbol (n / 1024), al.symbol (n / 16 % 64), al.symbol (n % 16 * 4)]
  | [a] => [al.symbol (a.toNat / 4), al.symbol (a.toNat % 4 * 16)]
  | [] => []

def encode (al : Alphabet) (bytes : List UInt8) : String :=
  String.ofList ((al.encodeBytes bytes).map fun b => Char.ofNat b.toNat)

/-- The bytes of some symbol values, four by four. The last group gives one byte less than
it has values. -/
def bytesOfValues : List Nat → List UInt8
  | a :: b :: c :: d :: rest =>
    let n := a * 262144 + b * 4096 + c * 64 + d
    (n / 65536).toUInt8 :: (n / 256 % 256).toUInt8 :: (n % 256).toUInt8 :: bytesOfValues rest
  | [a, b, c] =>
    let n := a * 1024 + b * 16 + c / 4
    [(n / 256).toUInt8, (n % 256).toUInt8]
  | [a, b] => [(a * 4 + b / 16).toUInt8]
  | _ => []

end Alphabet

/-- Why a text is no base64 text. Offsets are in bytes. -/
inductive Base64Fault where
  | symbol (byte : UInt8) (offset : Nat)
  | length (n : Nat)
  | lastSymbol (byte : UInt8) (offset : Nat)
  | padding
  deriving DecidableEq

def Base64Fault.message : Base64Fault → String
  | .symbol b i => "Invalid symbol " ++ toString b.toNat ++ ", offset " ++ toString i ++ "."
  | .length n => "Invalid input length: " ++ toString n
  | .lastSymbol b i =>
    "Invalid last symbol " ++ toString b.toNat ++ ", offset " ++ toString i ++ "."
  | .padding => "Invalid padding"

namespace Alphabet

def pad : UInt8 := 61

/-- The values of symbols, up to the first byte that is none. -/
def valuesFrom (al : Alphabet) (offset : Nat) : List UInt8 → Except Base64Fault (List Nat)
  | [] => .ok []
  | b :: rest =>
    match al.value? b with
    | none => .error (.symbol b offset)
    | some v => (v :: ·) <$> valuesFrom al (offset + 1) rest

/-- The values in the last group, which starts at `start`. A padding sign is a wrong symbol
among the first two, in front of a symbol, and unwanted behind the group. -/
def lastGroup (al : Alphabet) (start : Nat) (group : List UInt8) : Except Base64Fault (List Nat) :=
  let head := group.takeWhile (· ≠ pad)
  let tail := group.dropWhile (· ≠ pad)
  match al.valuesFrom start head with
  | .error f => .error f
  | .ok values =>
    if tail.isEmpty then .ok values
    else if head.length < 2 || tail.any (· ≠ pad) then .error (.symbol pad (start + head.length))
    else .error .padding

/-- The bits of the last symbol that belong to no byte. -/
def spareBits : List Nat → Nat
  | [_, b] => b % 16
  | [_, _, c] => c % 4
  | _ => 0

/-- The bytes of a base64 text, with the first fault where there is one. -/
def decode (al : Alphabet) (s : String) : Except Base64Fault (List UInt8) := do
  let bytes := s.toUTF8.toList
  let n := bytes.length
  -- All groups but the last are four symbols; the last one is read apart.
  let full := (n - 1) / 4 * 4
  -- A length that no text has may come of one stray byte at the end, which is then named.
  if n % 4 = 1 then
    match bytes.getLast? with
    | some b => if b ≠ pad && (al.value? b).isNone then throw (.symbol b (n - 1))
    | none => pure ()
  let front ← al.valuesFrom 0 (bytes.take full)
  let last ← al.lastGroup full (bytes.drop full)
  if n ≠ 0 && last.length < 2 then throw (.length (full + last.length))
  match (bytes.drop full)[last.length - 1]? with
  | some b => if spareBits last ≠ 0 then throw (.lastSymbol b (full + last.length - 1))
  | none => pure ()
  return bytesOfValues (front ++ last)

/-! ## Reading back -/

theorem value?_symbol_urlSafe : ∀ n < 64, urlSafe.value? (urlSafe.symbol n) = some n := by
  decide

end Alphabet
end ServiceMesh.Encoding
