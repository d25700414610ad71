-- The side of a server that other processes call.
import ServiceMesh.Rpc.Metadata
import ServiceMesh.Rpc.Status
import ServiceMesh.Service.Server

namespace ServiceMesh

namespace Rpc

def configuredNote (service : String) : Note :=
  .log .debug "Configured gRPC server" [("service", .text service)]

/-- The greatest size of a message, in bytes. -/
def maxMessage : Nat := 4194304

/-- The bytes of a number, seven bits to a byte. -/
def varintSize (n : Nat) : Nat := if n < 128 then 1 else 1 + varintSize (n / 128)

/-- The bytes of a text field; an empty text is left out. -/
def textSize (s : String) : Nat :=
  let n := s.utf8ByteSize
  if n = 0 then 0 else 1 + varintSize n + n

/-- The bytes of a number field; zero is left out. -/
def intSize (n : Int) : Nat := if n = 0 then 0 else 1 + varintSize (n % UInt64.size).toNat

def tooLarge (size : Nat) : Status :=
  ⟨.outOfRange, "Error, decoded message length too large: found " ++ toString size
    ++ " bytes, the limit is: " ++ toString maxMessage ++ " bytes", none⟩

/-- A message that may be too large to be received. -/
def received {α : Type} (size : Nat) (message : α) : Except Status α :=
  if maxMessage < size then .error (tooLarge size) else .ok message

end Rpc

namespace Operation

open Rpc

def requestSize : (op : Operation) → op.Request → Nat
  | .sum, r => intSize r.a + intSize r.b
  | .concat, r => textSize r.a + textSize r.b
  | .uppercase, s | .count, s | .validToken, s => textSize s
  | .register, r => textSize r.username + textSize r.password + textSize r.nickname
  | .login, r => textSize r.username + textSize r.password
  | .updatePassword, r => textSize r.username + textSize r.password + textSize r.newPassword

def replySize : (op : Operation) → op.Reply → Nat
  | .sum, r => intSize r.v + textSize r.err
  | .concat, r | .uppercase, r => textSize r.v + textSize r.err
  | .count, v => intSize v
  | .register, r => textSize r.id + textSize r.err
  | .login, r => textSize r.token + intSize r.expiresIn + textSize r.err
  | .updatePassword, err => textSize err
  | .validToken, r => (if r.valid then 2 else 0) + textSize r.username + textSize r.err

/-- Answers a remote call by calling an endpoint: the rules first, then the endpoint. -/
def answerRpc {σ : Type} (call : (op : Operation) → op.Request → Act σ (Except Failure op.Answer))
    (op : Operation) (r : op.Request) : Act σ (Except Status op.Reply) := do
  match op.violations r with
  | [] =>
    match ← call op r with
    | .ok answer => return .ok (op.encode answer)
    | .error f => Act.noting (.error f.status, f.statusNotes)
  | vs => return .error (Failure.invalid vs).status

end Operation

namespace Server

variable {σ : Type}

/-- A remote call from end to end. Each side refuses a message that is too large. -/
def rpc (setting : Accounts.Setting σ) (metadata : Rpc.Metadata) (op : Operation)
    (r : op.Request) : Act (Server σ) (Except Rpc.Status op.Reply) := do
  Act.note metadata.receivedNotes
  match Rpc.received (op.requestSize r) r with
  | .error s => return .error s
  | .ok r =>
    match ← op.answerRpc (call setting) r with
    | .error s => return .error s
    | .ok reply => return Rpc.received (op.replySize reply) reply

end Server

end ServiceMesh
