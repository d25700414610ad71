-- Requests that are served at the same time, each by a task of its own and under its id. A
-- thread works at one task at a time, and a task goes from thread to thread. While a thread
-- works at a task, the id of that task is in the slot of the thread; in between, the task
-- keeps it.
import ServiceMesh.Http.Cors
import ServiceMesh.Trace.Context

namespace ServiceMesh

/-- The request id that came with a remote call, if it is text. -/
def Rpc.Metadata.requestId? (m : Rpc.Metadata) : Option String :=
  (m.get? "x-request-id").filter Http.isHeaderText

namespace Http

/-- A text as the value of a header, if it can be one. -/
def headerValue? (s : String) : Option String := if isHeaderValue s then some s else none

/-! ## Tasks and threads -/

/-- What one step of a task comes to. -/
structure Stride (κ : Type) where
  /-- What comes next, or the response at the end. -/
  next : κ ⊕ Response
  /-- The remote calls that go out, each with the span that it is made in. -/
  calls : List (Option Trace.Context) := []
  /-- The tasks that begin beside this one. -/
  begun : List κ := []

/-- What tasks do: with a request that has arrived, and step by step. A step is told the current
request id. -/
structure Program (σ κ : Type) where
  accept : Request → κ
  step : (current : Option String) → κ → Act σ (Stride κ)

inductive Progress (κ : Type) where
  | going (next : κ)
  | ended (response : Response)
  | broken (c : Crash)

structure Task (κ : Type) where
  /-- The header value that the response is to carry as its id. -/
  header? : Option String
  /-- Whether the task has a place for an id. -/
  hasPlace : Bool
  /-- The id in that place. While a thread works at the task, what was in the thread's slot. -/
  kept : Option String
  running : Bool := false
  progress : Progress κ

structure Thread where
  slot : Option String := none
  /-- The task that the thread works at. -/
  task? : Option Nat := none

/-- The threads and the tasks, those that have ended among them, and what has happened. -/
structure Serving (σ κ : Type) where
  shared : σ
  threads : Nat → Thread := fun _ => {}
  tasks : List (Task κ) := []
  /-- What tasks have seen as the current request id, each with the number of the task. -/
  seen : List (Nat × Option String) := []
  /-- What went out with remote calls, each with the number of the task that made it. -/
  sent : List (Nat × Rpc.Metadata) := []
  notes : List Note := []

inductive Event (κ : Type) where
  /-- A request arrives; `fresh` is its id if it comes without one. -/
  | arrive (fresh : String) (r : Request)
  /-- A task begins that serves no request. -/
  | begin (k : κ)
  /-- A thread takes up a task. Tasks are counted from 0. -/
  | enter (thread task : Nat)
  /-- A thread takes the next step of its task. -/
  | work (thread : Nat)
  /-- A thread leaves its task. -/
  | leave (thread : Nat)

namespace Task

variable {κ : Type}

def serving (id : String) (k : κ) : Task κ := ⟨headerValue? id, true, some id, false, .going k⟩

def background (k : κ) : Task κ := ⟨none, false, none, false, .going k⟩

/-- The slot of a thread and the place of a task change what is in them. -/
def swap (task : Task κ) (slot : Option String) : Option String × Task κ :=
  if task.hasPlace then (task.kept, { task with kept := slot }) else (slot, task)

/-- The response as it goes out. -/
def respond (task : Task κ) (response : Response) : Response :=
  match task.header? with
  | some value => { response with
      headers := response.headers.filter (·.1 != "x-request-id") ++ [("x-request-id", value)] }
  | none => response

def went (task : Task κ) : κ ⊕ Response → Task κ
  | .inl k => { task with progress := .going k }
  | .inr response => { task with progress := .ended (task.respond response) }

def response? (task : Task κ) : Option Response :=
  match task.progress with
  | .ended response => some response
  | _ => none

end Task

namespace Serving

variable {σ κ : Type}

def setThread (w : Serving σ κ) (t : Nat) (thread : Thread) : Nat → Thread :=
  fun u => if u = t then thread else w.threads u

def arrive (p : Program σ κ) (fresh : String) (r : Request) (w : Serving σ κ) : Serving σ κ :=
  let id := requestId fresh r
  let r := match headerValue? id with
    | some value => r.setHeader "x-request-id" value
    | none => r
  { w with tasks := w.tasks ++ [.serving id (p.accept r)] }

def enter (t i : Nat) (w : Serving σ κ) : Serving σ κ :=
  match w.tasks[i]? with
  | none => w
  | some task =>
    if (w.threads t).task?.isNone && !task.running then
      let (slot, task) := task.swap (w.threads t).slot
      { w with
        threads := w.setThread t ⟨slot, some i⟩
        tasks := w.tasks.set i { task with running := true } }
    else w

def leave (t : Nat) (w : Serving σ κ) : Serving σ κ :=
  match (w.threads t).task? with
  | none => w
  | some i =>
    match w.tasks[i]? with
    | none => w
    | some task =>
      let (slot, task) := task.swap (w.threads t).slot
      { w with
        threads := w.setThread t ⟨slot, none⟩
        tasks := w.tasks.set i { task with running := false } }

/-- The next step of a task on a thread. A task that breaks off is left like any other. -/
def takeStep (p : Program σ κ) (i : Nat) (task : Task κ) (k : κ) (current : Option String)
    (w : Serving σ κ) : Serving σ κ :=
  match (p.step current k).run w.shared with
  | ⟨.ok stride, shared, notes⟩ => { w with
      shared
      tasks := w.tasks.set i (task.went stride.next) ++ stride.begun.map .background
      seen := w.seen ++ [(i, current)]
      sent := w.sent ++ stride.calls.map fun span => (i, Trace.propagate span current [])
      notes := w.notes ++ notes }
  | ⟨.error c, shared, notes⟩ => { w with
      shared
      tasks := w.tasks.set i { task with progress := .broken c }
      seen := w.seen ++ [(i, current)]
      notes := w.notes ++ notes }

def work (p : Program σ κ) (t : Nat) (w : Serving σ κ) : Serving σ κ :=
  match (w.threads t).task? with
  | none => w
  | some i =>
    match w.tasks[i]? with
    | none => w
    | some task =>
      match task.progress with
      | .going k => w.takeStep p i task k (w.threads t).slot
      | _ => w

def step (p : Program σ κ) (w : Serving σ κ) : Event κ → Serving σ κ
  | .arrive fresh r => w.arrive p fresh r
  | .begin k => { w with tasks := w.tasks ++ [.background k] }
  | .enter t i => w.enter t i
  | .work t => w.work p t
  | .leave t => w.leave t

def run (p : Program σ κ) (w : Serving σ κ) (events : List (Event κ)) : Serving σ κ :=
  events.foldl (step p) w

/-- All arrive before any of them is served, and each takes its step on a thread of its own. -/
def runTogether (p : Program σ κ) (shared : σ) (arrivals : List (Event κ)) : Serving σ κ :=
  let all := List.range arrivals.length
  run p { shared } (arrivals ++ all.map (fun n => .enter n n) ++ all.map .work ++ all.map .leave)

def responses (w : Serving σ κ) : List Response := w.tasks.filterMap (·.response?)

end Serving

/-- Work that is done in one step. -/
def Program.ofWork {σ : Type} (work : Request → Option String → Act σ Response) :
    Program σ Request where
  accept r := r
  step current r := do return ⟨.inr (← work r current), [], []⟩

end Http

end ServiceMesh
