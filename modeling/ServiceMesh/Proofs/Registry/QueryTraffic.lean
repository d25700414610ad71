-- Changes of a registry in memory and a query on it, all under way at the same
-- time. A change takes two turns, the entry first and then the index. A query
-- takes many, and turns of changes may fall between any two of them.
import Mathlib.Data.List.Induction
import ServiceMesh.Proofs.Registry.Entries

namespace ServiceMesh

namespace Registry

/-! ## Changes under way -/

inductive ChangeStage where
  | writing
  | bumping
  | finished
  deriving DecidableEq, Repr

/-- A change, and how far it has come. -/
structure Change where
  mutation : Mutation
  stage : ChangeStage := .writing
  deriving DecidableEq, Repr

/-- A registry, the present, and the changes so far, those that are over among them. -/
structure Shared where
  registry : Registry := {}
  now : Instant := 0
  changes : List Change := []
  deriving DecidableEq, Repr

namespace Shared

inductive Event where
  /-- A change begins. -/
  | begin (m : Mutation)
  /-- A change takes its next turn. Changes are counted from 0. -/
  | turn (change : Nat)
  /-- Time passes. -/
  | wait (millis : Nat)
  deriving DecidableEq, Repr

def turn (s : Shared) (k : Nat) : Shared :=
  match s.changes[k]? with
  | some ⟨m, .writing⟩ =>
    { s with registry := s.registry.write m, changes := s.changes.set k ⟨m, .bumping⟩ }
  | some ⟨m, .bumping⟩ =>
    { s with registry := s.registry.bump, changes := s.changes.set k ⟨m, .finished⟩ }
  | _ => s

def step (s : Shared) : Event → Shared
  | .begin m => { s with changes := s.changes ++ [⟨m, .writing⟩] }
  | .turn k => s.turn k
  | .wait millis => { s with now := s.now + millis }

def run (s : Shared) (events : List Event) : Shared := events.foldl step s

theorem run_snoc (s : Shared) (past : List Event) (e : Event) :
    s.run (past ++ [e]) = (s.run past).step e := List.foldl_append

/-- A change whose entry is not written: it has not begun, or has just begun. -/
def Unwritten (s : Shared) (k : Nat) : Prop := ∀ c, s.changes[k]? = some c → c.stage = .writing

/-- A change that has moved the index. -/
def Over (s : Shared) (k : Nat) : Prop := ∃ c, s.changes[k]? = some c ∧ c.stage = .finished

end Shared

/-! ## A query under way -/

/-- What a query shows of an id, as the registry is. -/
def shown (r : Registry) (q : Query) (id : String) : List Instance :=
  match r.entry? id with
  | some e => if matchesEntry q e then [e.inst] else []
  | none => []

end Registry

namespace QueryStage

def isWaiting : QueryStage → Bool
  | .waiting _ => true
  | _ => false

def isAnswered : QueryStage → Bool
  | .answered _ _ => true
  | _ => false

def isBrokenOff : QueryStage → Bool
  | .brokenOff _ => true
  | _ => false

/-- Whether a query is over, with an answer or without. -/
def isOver (stage : QueryStage) : Bool := stage.isAnswered || stage.isBrokenOff

/-- Whether a query has gone on to read the index, or may. -/
def goesOn : QueryStage → Bool
  | .waiting _ | .brokenOff _ => false
  | _ => true

/-- The id that is looked at next. -/
def next? : QueryStage → Option String
  | .reading _ (id :: _) _ => some id
  | _ => none

end QueryStage

namespace Registry

/-- A query on a registry that others change. -/
structure Asking where
  shared : Shared
  query : Query
  stage : QueryStage
  /-- The ids that were looked at. -/
  looked : List String := []
  deriving DecidableEq, Repr

namespace Asking

inductive Event where
  /-- Something happens beside the query. -/
  | beside (e : Shared.Event)
  /-- The query takes its next step. -/
  | look
  /-- The entries yet to be looked at come in another order, perhaps with others that were put
  in since. -/
  | arrange (ids : List String)
  deriving DecidableEq, Repr

/-- A query that begins now. -/
def ask (s : Shared) (q : Query) (wait : Nat) : Asking :=
  { shared := s, query := q, stage := .start q s.now wait }

def registry (t : Asking) : Registry := t.shared.registry

def now (t : Asking) : Instant := t.shared.now

def look (t : Asking) : Asking :=
  { t with stage := t.stage.step t.query t.registry t.now
           looked := t.looked ++ t.stage.next?.toList }

/-- No entry is left out, and none is looked at twice. -/
def arrange (t : Asking) (ids : List String) : Asking :=
  match t.stage with
  | .reading index pending found =>
    if ids.Nodup ∧ (∀ id ∈ pending, id ∈ ids) ∧ (∀ id ∈ ids, id ∉ t.looked) then
      { t with stage := .reading index ids found }
    else t
  | _ => t

def step (t : Asking) : Event → Asking
  | .beside e => { t with shared := t.shared.step e }
  | .look => t.look
  | .arrange ids => t.arrange ids

def run (t : Asking) (events : List Event) : Asking := events.foldl step t

theorem run_append (t : Asking) (past later : List Event) :
    t.run (past ++ later) = (t.run past).run later := List.foldl_append

theorem run_snoc (t : Asking) (past : List Event) (e : Event) :
    t.run (past ++ [e]) = (t.run past).step e := List.foldl_append

/-- Time passes only while the query has nothing to do, and not beyond its deadline. -/
def Prompt (t : Asking) : Event → Prop
  | .beside (.wait millis) =>
    (∃ deadline, t.stage = .waiting deadline ∧ t.registry.index ≤ t.query.waitIndex ∧
      t.now + millis ≤ deadline) ∨ t.stage.isOver = true
  | _ => True

/-- Events that never keep the query from what it has to do. -/
def Promptly (t : Asking) (events : List Event) : Prop :=
  ∀ past e, past ++ [e] <+: events → (t.run past).Prompt e

end Asking

end Registry

end ServiceMesh
