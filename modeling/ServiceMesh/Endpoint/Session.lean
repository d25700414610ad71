-- Calls through one chain, some of them under way at the same time. Every step is one event:
-- a call goes in, comes out, is given up, or time passes.
import ServiceMesh.Endpoint.Guard

namespace ServiceMesh

/-- A chain around an inner endpoint, and the calls that are inside. -/
structure Session (α : Type) where
  guard : Guard
  /-- The calls in the inner endpoint, the latest first, each with its name and request. -/
  inside : List (String × α) := []
  /-- How many calls have reached the inner endpoint. -/
  reached : Nat := 0

namespace Session

variable {α β : Type}

def atGuard (a : Act Guard β) : Act (Session α) β :=
  a.on Session.guard fun guard s => { s with guard }

def advance (millis : Nat) : Act (Session α) Unit := atGuard (Guard.advance millis)

def call (work : Act (Session α) (Except Failure α)) : Act (Session α) (Except Failure α) :=
  Act.guarded Session.guard (fun guard s => { s with guard }) do
    Act.modify fun s => { s with reached := s.reached + 1 }
    work

/-- A call goes in and stays inside; none if it is refused at once. -/
def start (id : String) (x : α) : Act (Session α) (Option Failure) := do
  match ← atGuard Guard.enter with
  | .error f => return some f
  | .ok () =>
    Act.modify fun s => { s with reached := s.reached + 1, inside := (id, x) :: s.inside }
    return none

def takeOut (id : String) : Act (Session α) (Option α) := do
  let found := ((← Act.get).inside.find? (·.1 == id)).map (·.2)
  Act.modify fun s => { s with inside := s.inside.eraseP (·.1 == id) }
  return found

def finish (id : String) (failure : Option Failure) :
    Act (Session α) (Option (Except Failure α)) := do
  match ← takeOut id with
  | none => return none
  | some x =>
    let r : Except Failure α := match failure with
      | none => .ok x
      | some f => .error f
    atGuard (Guard.leave (r.map fun _ => ()))
    return some r

/-- A call that is inside is given up. Tells whether there was one. -/
def drop (id : String) : Act (Session α) Bool := do
  match ← takeOut id with
  | none => return false
  | some _ =>
    atGuard Guard.abandon
    return true

/-- Gives up every call that is inside, the earliest first. -/
def close : Act (Session α) Unit := do
  for (id, _) in (← Act.get).inside.reverse do
    let _ ← drop id

end Session

end ServiceMesh
