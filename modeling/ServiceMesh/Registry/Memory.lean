-- A registry in memory. Every change writes an entry and then moves an index on; whoever asks
-- can wait for the index to move.
import ServiceMesh.Endpoint.Breaker
import ServiceMesh.Registry.Instance

namespace ServiceMesh

inductive Mutation where
  | register (i : Instance)
  | deregister (id : String)
  /-- Whether an instance passes its health checks. -/
  | setPassing (id : String) (passing : Bool)
  deriving DecidableEq, Repr

/-- An instance, and whether it passes its health checks. -/
structure Entry where
  inst : Instance
  passing : Bool
  deriving DecidableEq, Repr

structure Query where
  service : String
  passingOnly : Bool
  /-- Wait until the index is past this; 0 does not wait. -/
  waitIndex : Nat
  deriving DecidableEq, Repr

structure Registry where
  /-- One entry for an id. -/
  entries : List Entry := []
  /-- One more than the changes so far. The number has no bound here; one of 64 bits would do for
  the first 2^64 - 2 changes. -/
  index : Nat := 1
  deriving DecidableEq, Repr

namespace Registry

def entry? (r : Registry) (id : String) : Option Entry := r.entries.find? (·.inst.id == id)

/-- The first half of a change: the entry is written. A new instance passes. -/
def write (m : Mutation) (r : Registry) : Registry :=
  match m with
  | .register i =>
    { r with entries := r.entries.filter (·.inst.id != i.id) ++ [⟨i, true⟩] }
  | .deregister id => { r with entries := r.entries.filter (·.inst.id != id) }
  | .setPassing id passing =>
    { r with entries :=
        r.entries.map fun e => if e.inst.id = id then { e with passing } else e }

/-- The second half of a change: the index moves on. -/
def bump (r : Registry) : Registry := { r with index := r.index + 1 }

def apply (r : Registry) (m : Mutation) : Registry := (r.write m).bump

def applyAll (r : Registry) (ms : List Mutation) : Registry := ms.foldl apply r

def matchesEntry (q : Query) (e : Entry) : Bool :=
  e.inst.name == q.service && (!q.passingOnly || e.passing)

/-- The instances that a query asks for, by id. -/
def snapshot (r : Registry) (q : Query) : List Instance :=
  Instance.sorted ((r.entries.filter (matchesEntry q)).map (·.inst))

end Registry

/-! ## Queries in small steps -/

/-- How far a query has come. Changes may happen between any two of its steps. -/
inductive QueryStage where
  /-- Waiting for the index, until a deadline at the latest. -/
  | waiting (deadline : Instant)
  | indexing
  /-- The index is read; the entries of these ids are still to be looked at. -/
  | reading (index : Nat) (pending : List String) (found : List Instance)
  | answered (instances : List Instance) (index : Nat)
  /-- The query has no answer, and gets none. -/
  | brokenOff (c : Crash)
  deriving DecidableEq, Repr

namespace QueryStage

/-- A query that begins now. Only one that waits needs a deadline. -/
def start (q : Query) (now : Instant) (wait : Nat) : QueryStage :=
  if q.waitIndex = 0 then .indexing
  else match now.after wait with
    | .ok deadline => .waiting deadline
    | .error c => .brokenOff c

/-- The next step. A query that waits goes on only when the index is past what it waits for,
or at its deadline. -/
def step (q : Query) (r : Registry) (now : Instant) : QueryStage → QueryStage
  | .waiting deadline =>
    if q.waitIndex < r.index ∨ deadline ≤ now then .indexing else .waiting deadline
  | .indexing => .reading r.index (r.entries.map (·.inst.id)) []
  | .reading index [] found => .answered (Instance.sorted found) index
  | .reading index (id :: pending) found =>
    let found := match r.entry? id with
      | some e => if Registry.matchesEntry q e then found ++ [e.inst] else found
      | none => found
    .reading index pending found
  | .answered instances index => .answered instances index
  | .brokenOff c => .brokenOff c

end QueryStage

/-! ## Queries with changes to come -/

namespace Registry

structure QueryAnswer where
  instances : List Instance
  index : Nat
  at_ : Instant
  deriving DecidableEq, Repr

def answer (r : Registry) (q : Query) (now : Instant) : QueryAnswer :=
  ⟨r.snapshot q, r.index, now⟩

/-- Waits for the index through changes in the order of their instants. All changes of one
instant are seen together; a change at the deadline comes too late. Gives the answer, the
registry at that moment, and the changes still to come. -/
def await (q : Query) (deadline : Instant) (now : Instant) (r : Registry) :
    List (Instant × Mutation) → QueryAnswer × Registry × List (Instant × Mutation)
  | [] => (r.answer q (if q.waitIndex < r.index then now else max now deadline), r, [])
  | (t, m) :: later =>
    -- Only when all changes of an instant are made is the query answered.
    if q.waitIndex < r.index ∧ now < t then (r.answer q now, r, (t, m) :: later)
    else if deadline ≤ t then (r.answer q (max now deadline), r, (t, m) :: later)
    else await q deadline t (r.apply m) later

/-- A query, with changes to come while it waits. -/
def query (r : Registry) (q : Query) (now : Instant) (wait : Nat)
    (changes : List (Instant × Mutation)) :
    Except Crash (QueryAnswer × Registry × List (Instant × Mutation)) :=
  if q.waitIndex = 0 then .ok (r.answer q now, r, changes)
  else (now.after wait).map fun deadline =>
    if q.waitIndex < r.index then (r.answer q now, r, changes) else r.await q deadline now changes

end Registry

end ServiceMesh
