-- Middlewares put around an endpoint. The first one that was added is the outermost one.
import ServiceMesh.Endpoint.Session

namespace ServiceMesh

variable {σ α β : Type}

/-- A single typed operation. -/
abbrev Endpoint (σ α β : Type) : Type := α → Act σ (Except Failure β)

/-- Wraps an endpoint with additional behaviour. -/
structure Middleware (σ α β : Type) where
  wrap : Endpoint σ α β → Endpoint σ α β

/-- Middlewares in the order in which they were added. -/
structure Stack (σ α β : Type) where
  layers : List (Middleware σ α β)

namespace Stack

def empty : Stack σ α β := ⟨[]⟩

def add (stack : Stack σ α β) (m : Middleware σ α β) : Stack σ α β := ⟨stack.layers ++ [m]⟩

def addOpt (stack : Stack σ α β) : Option (Middleware σ α β) → Stack σ α β
  | some m => stack.add m
  | none => stack

/-- The endpoint with all middlewares around it, the last one put around it first. -/
def build (stack : Stack σ α β) (inner : Endpoint σ α β) : Endpoint σ α β :=
  stack.layers.reverse.foldl (fun next m => m.wrap next) inner

end Stack

/-! ## Middlewares that hand on each call once at most -/

/-- What a middleware makes of a call. -/
inductive Treatment (σ α β : Type) where
  /-- It ends the call by itself. -/
  | refuse (r : Except Failure β)
  /-- It hands on a request. Of the result that it gets it makes its own; if it gets none, it lets
  go of the call. -/
  | delegate (request : α) (out : Except Failure β → Act σ (Except Failure β)) (drop : Act σ Unit)

/-- Lets go of what is held if an act breaks off. -/
def Act.releasing (a : Act σ α) (drop : Act σ Unit) : Act σ α := fun s =>
  match a s with
  | ⟨.ok x, s, notes⟩ => ⟨.ok x, s, notes⟩
  | ⟨.error c, s, notes⟩ =>
    match drop s with
    | ⟨_, s, more⟩ => ⟨.error c, s, notes ++ more⟩

/-- Changes the state in the end, however an act ends. -/
def Act.lastly (a : Act σ α) (f : σ → σ) : Act σ α := fun s =>
  match a s with
  | ⟨r, s, notes⟩ => ⟨r, f s, notes⟩

def Middleware.deciding (decide : α → Act σ (Treatment σ α β)) : Middleware σ α β where
  wrap next x := do
    match ← decide x with
    | .refuse r => return r
    | .delegate y out drop => out (← (next y).releasing drop)

/-! ## The layers of a guard, each in its place -/

namespace Guard

def enterAt (i : Nat) : Act Guard (Except Failure Unit) := fun g =>
  match g.chain[i]? with
  | none => ⟨.ok (.ok ()), g, []⟩
  | some l =>
    let (l, notes, r) := l.enter g.now
    ⟨.ok r, { g with chain := g.chain.set i l }, notes⟩

/-- The layer at a place takes notice of a call in its own way. -/
def noticeAt (i : Nat) (notice : Moment → Layer → Except Crash Layer × List Note) :
    Act Guard Unit := fun g =>
  match g.chain[i]? with
  | none => ⟨.ok (), g, []⟩
  | some l =>
    match notice g.now l with
    | (.ok l, notes) => ⟨.ok (), { g with chain := g.chain.set i l }, notes⟩
    | (.error c, notes) => ⟨.error c, g, notes⟩

def tick (g : Guard) : Guard := { g with now := { g.now with nanos := g.now.nanos + 1 } }

def decideAt (part : σ → Guard) (put : Guard → σ → σ) (i : Nat) (x : α) :
    Act σ (Treatment σ α β) := do
  match ← (enterAt i).on part put with
  | .error f => return .refuse (.error f)
  | .ok () =>
    return .delegate x
      (fun r => do
        (noticeAt i fun now l => l.leave now (r.map fun _ => ())).on part put
        return r)
      ((noticeAt i fun now l => l.abandon now).on part put)

def layerAt (part : σ → Guard) (put : Guard → σ → σ) (i : Nat) : Middleware σ α β :=
  .deciding (decideAt part put i)

def stack (part : σ → Guard) (put : Guard → σ → σ) (n : Nat) : Stack σ α β :=
  (List.range n).foldl (fun stack i => stack.add (layerAt part put i)) .empty

/-- An endpoint with the layers of a guard around it. The clock of limiters moves on with every
passage through them, in and out. -/
def around (part : σ → Guard) (put : Guard → σ → σ) (n : Nat) (inner : Endpoint σ α β) :
    Endpoint σ α β := fun x =>
  let moves := fun s => put (part s).tick s
  ((stack part put n).build (fun x => do Act.modify moves; inner x) x).lastly moves

end Guard

/-- A whole call of the endpoint that is built of the layers of a session. -/
def Session.callBuilt (work : Act (Session α) (Except Failure α)) :
    Act (Session α) (Except Failure α) := do
  let inner : Endpoint (Session α) Unit α := fun _ => do
    Act.modify fun s => { s with reached := s.reached + 1 }
    work
  Guard.around Session.guard (fun guard s => { s with guard }) (← Act.get).guard.chain.length
    inner ()

end ServiceMesh
