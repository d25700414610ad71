-- A server: the operations of a service behind the standard layers.
import ServiceMesh.Account.Service
import ServiceMesh.Endpoint.Config
import ServiceMesh.Endpoint.Guard
import ServiceMesh.Service.Adding
import ServiceMesh.Service.Texts

namespace ServiceMesh

def EndpointConfig.chain (config : EndpointConfig) (op : Operation) : Except Crash Chain :=
  Chain.standard op.name config.rate config.maxFailures config.openSeconds

structure Server (σ : Type) where
  kind : ServiceKind
  chains : List (Operation × Chain)
  now : Moment
  accounts : Accounts σ

namespace Server

variable {σ α : Type}

def start (kind : ServiceKind) (config : EndpointConfig) (now : Moment) (accounts : Accounts σ) :
    Except Crash (Server σ) := do
  let chains ← (Operation.ofService kind).mapM fun op => do return (op, ← config.chain op)
  return ⟨kind, chains, now, accounts⟩

def guard (op : Operation) (s : Server σ) : Guard :=
  ⟨((s.chains.find? (·.1 = op)).map (·.2)).getD [], s.now⟩

def putGuard (op : Operation) (g : Guard) (s : Server σ) : Server σ :=
  { s with
    chains := s.chains.map fun (o, c) => if o = op then (o, g.chain) else (o, c)
    now := g.now }

def withAccounts (a : Act (Accounts σ) α) : Act (Server σ) α :=
  a.on Server.accounts fun accounts s => { s with accounts }

/-- An operation of the accounts together with what is noted of it. -/
def noted (a : Act (Accounts σ) (Accounts.Result α)) (notes : Accounts.Result α → List Note) :
    Act (Server σ) (Accounts.Result α) := do
  let r ← withAccounts a
  Act.note (notes r)
  return r

/-- What an operation does, behind all layers. -/
def perform (setting : Accounts.Setting σ) :
    (op : Operation) → op.Request → Act (Server σ) (Except Failure op.Answer)
  | .sum, r => Act.noting (.ok (Adding.sum r), Adding.sumNotes r)
  | .concat, r => Act.noting (.ok (Adding.concat r), Adding.concatNotes r)
  | .uppercase, s => Act.noting (.ok (Texts.uppercase s), Texts.uppercaseNotes s)
  | .count, s => Act.noting (.ok (Texts.counted s), Texts.countNotes s)
  | .register, r => noted (Accounts.register setting r) (Accounts.registerNotes r)
  | .login, r => noted (Accounts.login setting r) (Accounts.loginNotes r)
  | .updatePassword, r => noted (Accounts.updatePassword setting r) (Accounts.updateNotes r)
  | .validToken, token => noted (Accounts.validToken setting token) Accounts.validNotes

def call (setting : Accounts.Setting σ) (op : Operation) (r : op.Request) :
    Act (Server σ) (Except Failure op.Answer) :=
  Act.guarded (guard op) (putGuard op) (perform setting op r)

end Server

end ServiceMesh
