-- A watch follows the passing instances of one service: it asks a registry again and again,
-- each time waiting for a change, and publishes every list that differs from the one before.
import ServiceMesh.Failure.Basic
import ServiceMesh.Registry.Memory
import ServiceMesh.Telemetry.Act

namespace ServiceMesh

/-- What a watch publishes, for all who read it. -/
structure Feed where
  instances : List Instance := []
  /-- How often something has been published. -/
  version : Nat := 0
  /-- Whether more may follow. -/
  isOpen : Bool := true
  deriving DecidableEq, Repr

namespace Feed

def publish (instances : List Instance) (f : Feed) : Feed :=
  { f with instances, version := f.version + 1 }

def close (f : Feed) : Feed := { f with isOpen := false }

end Feed

/-- What a registry answers: instances, and the index to wait for next. -/
abbrev RegistryAnswer := Except Failure (List Instance × Nat)

namespace Watch

inductive Stage where
  /-- A query waits for the registry to get past this index. -/
  | asking (waitIndex : Nat)
  /-- No query is in flight; the next one is asked at an instant. -/
  | pausing (waitIndex : Nat) (wake : Instant)
  | stopped
  deriving DecidableEq, Repr

/-- How long a watch pauses after a failure, in milliseconds. -/
def pause : Nat := 1000

end Watch

structure Watch where
  service : String
  /-- A new watch asks at once, without waiting for a change. -/
  stage : Watch.Stage := .pausing 0 0
  feed : Feed := {}
  deriving DecidableEq, Repr

namespace Watch

def query? (w : Watch) : Option Query :=
  match w.stage with
  | .asking index => some ⟨w.service, true, index⟩
  | _ => none

/-- The index to wait for after an answer. One that goes back means that the registry has
started anew. -/
def nextIndex (asked told : Nat) : Nat := if told < asked then 0 else told

def answered (answer : RegistryAnswer) (now : Instant) (w : Watch) : Watch × List Note :=
  match w.stage, answer with
  | .asking asked, .ok (found, told) =>
    let instances := Instance.sorted found
    let w := { w with stage := .asking (nextIndex asked told) }
    if instances = w.feed.instances then (w, [])
    else ({ w with feed := w.feed.publish instances },
      [.log .info "Instance set changed"
        [("service", .text w.service), ("count", .int instances.length)]])
  | .asking asked, .error f =>
    ({ w with stage := .pausing asked (now + pause) },
      [.log .warn ("Registry query failed: " ++ f.display) [("service", .text w.service)]])
  | _, _ => (w, [])

def woken (now : Instant) (w : Watch) : Watch :=
  match w.stage with
  | .pausing asked wake => if wake ≤ now then { w with stage := .asking asked } else w
  | _ => w

/-- The watch ends, and with it its feed. -/
def cancel (w : Watch) : Watch × List Note :=
  match w.stage with
  | .stopped => (w, [])
  | _ => ({ w with stage := .stopped, feed := w.feed.close },
      [.log .debug "Instancer stopped" [("service", .text w.service)]])

end Watch

/-! ## Watches at work -/

/-- Who answers the queries of a watch. -/
structure Source (σ : Type) where
  /-- Takes in a query, or breaks off over it. -/
  ask : Query → Instant → σ → Except Crash σ
  /-- The instant at which the query in flight is answered, as far as one can tell by now. -/
  due : Query → Instant → σ → Option Instant
  answer : Query → σ → RegistryAnswer × σ

/-- A watch, who answers it, and the present. -/
structure Watching (σ : Type) where
  watch : Watch
  source : σ
  now : Instant := 0

namespace Watching

variable {σ : Type} (s : Source σ)

/-- Hands the query of a watch that has come to ask to its source. If that breaks off, so does the
watch, and notes nothing. -/
def ask (w : Watching σ) : Watching σ :=
  match w.watch.query? with
  | none => w
  | some q =>
    match s.ask q w.now w.source with
    | .ok source => { w with source }
    | .error _ => { w with watch := w.watch.cancel.1 }

/-- The next instant at which the watch goes on of its own. -/
def due (w : Watching σ) : Option Instant :=
  match w.watch.stage with
  | .pausing _ wake => some wake
  | .stopped => none
  | .asking _ => w.watch.query?.bind fun q => s.due q w.now w.source

/-- One step, if it is due by an instant. -/
def step (limit : Instant) (w : Watching σ) : Option (Watching σ × List Note) :=
  match due s w with
  | none => none
  | some t =>
    if limit < t then none
    else
      -- What was due in the past happens now.
      let w := { w with now := max w.now t }
      match w.watch.query? with
      | none => some (ask s { w with watch := w.watch.woken w.now }, [])
      | some q =>
        let (answer, source) := s.answer q w.source
        let (watch, notes) := w.watch.answered answer w.now
        let w := { w with watch, source }
        -- After an answer the watch asks again at once; after a failure it pauses.
        some (if w.watch.query?.isSome then ask s w else w, notes)

def run (limit : Instant) : (fuel : Nat) → Act (Watching σ) Unit
  | 0 => return ()
  | fuel + 1 => do
    match step s limit (← Act.get) with
    | none => Act.modify fun w => { w with now := max w.now limit }
    | some (w, notes) =>
      Act.modify fun _ => w
      Act.note notes
      run limit fuel

/-- Time passes. A step that takes no time uses up an answer of its source or is followed by
one that takes some, so that two steps and a few for every millisecond are enough. -/
def advance (millis answers : Nat) : Act (Watching σ) Unit := do
  run s ((← Act.get).now + millis) (2 * (millis + answers) + 4)

def cancel : Act (Watching σ) Unit := do
  let (watch, notes) := (← Act.get).watch.cancel
  Act.modify fun w => { w with watch }
  Act.note notes

end Watching

/-! ## Sources -/

/-- A registry in memory, and the deadline of the query in flight. -/
structure MemorySource where
  registry : Registry
  wait : Nat
  deadline : Instant := 0

/-- The registry answers once its index is past what is waited for, or at the deadline. -/
def MemorySource.source : Source MemorySource where
  ask := fun q now s =>
    if q.waitIndex = 0 then .ok s
    else (now.after s.wait).map fun deadline => { s with deadline }
  due := fun q now s => some
    (if q.waitIndex = 0 ∨ q.waitIndex < s.registry.index then now else s.deadline)
  answer := fun q s => (.ok (s.registry.snapshot q, s.registry.index), s)

/-- Answers laid down in advance, each with the time that it takes. -/
structure ScriptedSource where
  script : List (Nat × RegistryAnswer)
  /-- The queries so far. -/
  asked : List Query := []
  since : Instant := 0

/-- After the script, a query is never answered. -/
def ScriptedSource.source : Source ScriptedSource where
  ask := fun q now s => .ok { s with asked := s.asked ++ [q], since := now }
  due := fun _ _ s => s.script.head?.map fun entry => s.since + entry.1
  answer := fun _ s => match s.script with
    | [] => (.ok ([], 0), s)
    | (_, answer) :: rest => (answer, { s with script := rest })

end ServiceMesh
