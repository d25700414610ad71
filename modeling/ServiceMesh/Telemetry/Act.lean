-- Acts: steps of a process that change a state, note things, and may break off for good.
import ServiceMesh.Telemetry.Note

namespace ServiceMesh

/-- What ends a process's work where no failure can be reported: a fault of its own. -/
inductive Crash where
  /-- An instant beyond the range of the clock. -/
  | clockRange
  /-- A sum beyond the range of its numbers. -/
  | sumRange
  /-- Any other fault, in words. -/
  | other (message : String)
  deriving DecidableEq, Repr

def Crash.message : Crash → String
  | .clockRange => "overflow when adding duration to instant"
  | .sumRange => "attempt to add with overflow"
  | .other message => message

/-- How an act ended, the state it left, and what it noted. -/
structure Outcome (σ α : Type) where
  result : Except Crash α
  state : σ
  notes : List Note

/-- The outcome with its result, if there is one, put through `f`. -/
def Outcome.map {σ α β : Type} (o : Outcome σ α) (f : α → β) : Outcome σ β :=
  ⟨o.result.map f, o.state, o.notes⟩

/-- A step of a process whose state is a `σ`. -/
def Act (σ α : Type) : Type := σ → Outcome σ α

namespace Act

variable {σ τ α β : Type}

def run (a : Act σ α) (s : σ) : Outcome σ α := a s

protected def pure (x : α) : Act σ α := fun s => ⟨.ok x, s, []⟩

/-- One act and then another. After a crash nothing more is done. -/
protected def bind (a : Act σ α) (f : α → Act σ β) : Act σ β := fun s =>
  match a s with
  | ⟨.ok x, s, notes⟩ =>
    match f x s with
    | ⟨y, s, more⟩ => ⟨y, s, notes ++ more⟩
  | ⟨.error c, s, notes⟩ => ⟨.error c, s, notes⟩

instance : Monad (Act σ) where
  pure := Act.pure
  bind := Act.bind

def get : Act σ σ := fun s => ⟨.ok s, s, []⟩

def modify (f : σ → σ) : Act σ Unit := fun s => ⟨.ok (), f s, []⟩

def note (notes : List Note) : Act σ Unit := fun s => ⟨.ok (), s, notes⟩

def crash (c : Crash) : Act σ α := fun s => ⟨.error c, s, []⟩

/-- A value together with notes, as an act. -/
def noting (p : α × List Note) : Act σ α := fun s => ⟨.ok p.1, s, p.2⟩

/-- An act on a part of the state. -/
def on (part : σ → τ) (put : τ → σ → σ) (a : Act τ α) : Act σ α := fun s =>
  match a (part s) with
  | ⟨x, t, notes⟩ => ⟨x, put t s, notes⟩

/-- Runs an act and gives what it noted along with its result. -/
def listen (a : Act σ α) : Act σ (α × List Note) := fun s =>
  match a s with
  | ⟨x, s, notes⟩ => ⟨x.map fun x => (x, notes), s, notes⟩

/-- Goes on with a success, and keeps a failure as the result. -/
def andThen {ε : Type} (a : Act σ (Except ε α)) (f : α → Act σ (Except ε β)) :
    Act σ (Except ε β) := do
  match ← a with
  | .ok x => f x
  | .error e => pure (.error e)

@[simp] theorem run_pure (x : α) (s : σ) : (pure x : Act σ α).run s = ⟨.ok x, s, []⟩ := rfl

theorem run_bind (a : Act σ α) (f : α → Act σ β) (s : σ) :
    (a >>= f).run s = match a.run s with
      | ⟨.ok x, s, notes⟩ => ⟨((f x).run s).result, ((f x).run s).state,
          notes ++ ((f x).run s).notes⟩
      | ⟨.error c, s, notes⟩ => ⟨.error c, s, notes⟩ := rfl

/-- What follows an act that does not break off runs from the state it left. -/
theorem run_bind_ok {a : Act σ α} {f : α → Act σ β} {s s' : σ} {x : α} {notes : List Note}
    (h : a.run s = ⟨.ok x, s', notes⟩) :
    (a >>= f).run s =
      ⟨((f x).run s').result, ((f x).run s').state, notes ++ ((f x).run s').notes⟩ := by
  rw [run_bind, h]

/-- Nothing follows an act that breaks off. -/
theorem run_bind_error {a : Act σ α} (f : α → Act σ β) {s s' : σ} {c : Crash} {notes : List Note}
    (h : a.run s = ⟨.error c, s', notes⟩) : (a >>= f).run s = ⟨.error c, s', notes⟩ := by
  rw [run_bind, h]

theorem run_bind_pure (a : Act σ α) (s : σ) : (a >>= pure).run s = a.run s := by
  rw [run_bind]
  rcases a.run s with ⟨c | x, s', notes⟩
  · rfl
  · simp

theorem run_bind_bind {γ : Type} (a : Act σ α) (f : α → Act σ β) (g : β → Act σ γ) (s : σ) :
    ((a >>= f) >>= g).run s = (a >>= fun x => f x >>= g).run s := by
  simp only [run_bind]
  rcases a.run s with ⟨c | x, s₁, notes⟩
  · rfl
  · simp only
    rcases (f x).run s₁ with ⟨c | y, s₂, more⟩
    · rfl
    · simp [List.append_assoc]

/-- Acts one after another may be grouped as one likes. -/
instance : LawfulMonad (Act σ) :=
  LawfulMonad.mk' (Act σ) (fun a => funext (run_bind_pure a)) (fun _ _ => rfl)
    fun a f g => funext (run_bind_bind a f g)

@[simp] theorem run_get (s : σ) : (get : Act σ σ).run s = ⟨.ok s, s, []⟩ := rfl

@[simp] theorem run_modify (f : σ → σ) (s : σ) : (modify f).run s = ⟨.ok (), f s, []⟩ := rfl

@[simp] theorem run_note (notes : List Note) (s : σ) :
    (note notes : Act σ Unit).run s = ⟨.ok (), s, notes⟩ := rfl

theorem run_on {a : Act τ α} {part : σ → τ} {put : τ → σ → σ} {s : σ} {t : τ}
    {x : Except Crash α} {notes : List Note} (h : a.run (part s) = ⟨x, t, notes⟩) :
    (a.on part put).run s = ⟨x, put t s, notes⟩ := by
  change (match a.run (part s) with | ⟨x, t, notes⟩ => (⟨x, put t s, notes⟩ : Outcome σ α)) = _
  rw [h]

end Act

end ServiceMesh
