-- Hashing a password into a stored hash, and checking a password against one. The stored
-- hash says by itself how it was made.
import ServiceMesh.Password.Phc

namespace ServiceMesh.Password

open Digest.Argon2 (Kind Version Params)

/-- How new hashes are made. -/
def defaultParams : Params := ⟨19456, 2, 1, 32, []⟩

/-- The stored hash of a password: Argon2id with the default parameters. -/
def hash (salt : List UInt8) (password : String) : String :=
  let p := defaultParams
  let digest := Digest.Argon2.hash .id .v13 p password.toUTF8.toList salt
  Phc.render "argon2id" Version.v13.number [("m", p.memory), ("t", p.passes), ("p", p.lanes)]
    salt digest

def kind? : String → Option Kind
  | "argon2d" => some .d
  | "argon2i" => some .i
  | "argon2id" => some .id
  | _ => none

/-- The version of a number; a hash without one is of the newest. -/
def version? : Option Nat → Option Version
  | none => some .v13
  | some 0x13 => some .v13
  | some 0x10 => some .v10
  | _ => none

/-- Puts one parameter of a stored hash into place; the last of a name counts. -/
def setParam (p : Params) : String × String → Option Params
  | ("m", v) => (Phc.decimal v).toOption.map fun n => { p with memory := n }
  | ("t", v) => (Phc.decimal v).toOption.map fun n => { p with passes := n }
  | ("p", v) => (Phc.decimal v).toOption.map fun n => { p with lanes := n }
  | ("keyid", v) =>
    match Encoding.Alphabet.standard.decode v with
    | .ok bytes => if bytes.length ≤ 8 then some p else none
    | .error _ => none
  | ("data", v) =>
    match Encoding.Alphabet.standard.decode v with
    | .ok bytes => if bytes.length ≤ 32 then some { p with data := bytes } else none
    | .error _ => none
  | _ => none

/-- The digest that a password has under the terms of a stored hash, where these make sense. -/
def digestUnder (h : Phc) (password : String) : Option (List UInt8) := do
  let digest ← h.digest
  let salt ← (Encoding.Alphabet.standard.decode (← h.salt)).toOption
  let kind ← kind? h.algorithm
  let version ← version? h.version
  let params ← h.params.foldlM setParam { defaultParams with outputLength := digest.length }
  if params.valid && 8 ≤ salt.length then
    some (Digest.Argon2.hash kind version params password.toUTF8.toList salt)
  else none

/-- Whether a password belongs to a stored hash; a hash that cannot be read is a fault. -/
def verify (password stored : String) : Except PhcFault Bool := do
  let h ← Phc.parse stored
  return match h.digest, digestUnder h password with
    | some expected, some found => expected == found
    | _, _ => false

end ServiceMesh.Password
