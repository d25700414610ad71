-- A chain at work: calls go in and out as time goes on.
import ServiceMesh.Endpoint.Chain

namespace ServiceMesh

structure Guard where
  chain : Chain
  now : Moment

namespace Guard

/-- Goes through the chain, and breaks off if a layer does. The clock of limiters moves on with
every passage: no two of them fall on one instant of it. -/
def pass (through : Moment → Chain → Chain.Passage × Except Failure Unit) :
    Act Guard (Except Failure Unit) := fun g =>
  let (p, r) := through g.now g.chain
  let g : Guard := ⟨p.chain, { g.now with nanos := g.now.nanos + 1 }⟩
  match p.crash with
  | none => ⟨.ok r, g, p.notes⟩
  | some c => ⟨.error c, g, p.notes⟩

def enter : Act Guard (Except Failure Unit) := pass Chain.enter

def leave (r : Except Failure Unit) : Act Guard Unit := do
  let _ ← pass fun now chain => (Chain.leave now r chain, .ok ())

def abandon : Act Guard Unit := do
  let _ ← pass fun now chain => (Chain.abandon now chain, .ok ())

/-- Time passes on the clock of breakers and deadlines. Limiters go by another clock. -/
def advance (millis : Nat) : Act Guard Unit :=
  .modify fun g => { g with now := { g.now with millis := g.now.millis + millis } }

/-! ### How a passage ends -/

/-- The result of a passage that has come to its end or broken off. -/
def passed {α : Type} (p : Chain.Passage) (x : α) : Except Crash α :=
  match p.crash with
  | none => .ok x
  | some c => .error c

theorem passed_ok {α : Type} {p : Chain.Passage} (h : p.crash = none) (x : α) :
    passed p x = .ok x := by
  unfold passed
  rw [h]

theorem passed_error {α : Type} {p : Chain.Passage} {c : Crash} (h : p.crash = some c) (x : α) :
    passed p x = .error c := by
  unfold passed
  rw [h]

theorem map_passed {α β : Type} (p : Chain.Passage) (x : α) (f : α → β) :
    (passed p x).map f = passed p (f x) := by
  unfold passed
  cases p.crash <;> rfl

/-- What only turns the result of a passage into another one breaks off if the passage does. -/
theorem run_passed {σ α β : Type} {a : Act σ α} {s s' : σ} {p : Chain.Passage} {x : α}
    {notes : List Note} (h : a.run s = ⟨passed p x, s', notes⟩) (f : α → β) :
    (a >>= fun x => pure (f x)).run s = ⟨passed p (f x), s', notes⟩ := by
  cases hcrash : p.crash with
  | none =>
    rw [passed_ok hcrash] at h ⊢
    rw [Act.run_bind_ok h]
    simp
  | some c =>
    rw [passed_error hcrash] at h ⊢
    exact Act.run_bind_error _ h

def after (g : Guard) (p : Chain.Passage) : Guard :=
  ⟨p.chain, { g.now with nanos := g.now.nanos + 1 }⟩

variable {g : Guard} {p : Chain.Passage} {r : Except Failure Unit}

theorem run_pass {through : Moment → Chain → Chain.Passage × Except Failure Unit}
    (h : through g.now g.chain = (p, r)) :
    (pass through).run g = ⟨passed p r, g.after p, p.notes⟩ := by
  change pass through g = _
  unfold pass passed
  rw [h]
  obtain ⟨chain, notes, crash⟩ := p
  cases crash <;> rfl

theorem run_enter (h : Chain.enter g.now g.chain = (p, r)) :
    enter.run g = ⟨passed p r, g.after p, p.notes⟩ := run_pass h

/-- An act that goes through a chain for what it leaves behind. -/
theorem run_through {through : Moment → Chain → Chain.Passage} (h : through g.now g.chain = p) :
    (do let _ ← pass fun now chain => (through now chain, .ok ()) : Act Guard Unit).run g =
      ⟨passed p (), g.after p, p.notes⟩ := by
  have hpass : (pass fun now chain => (through now chain, .ok ())).run g =
      ⟨passed p (.ok ()), g.after p, p.notes⟩ := run_pass (by rw [h])
  exact run_passed hpass fun _ => ()

theorem run_leave (h : Chain.leave g.now r g.chain = p) :
    (leave r).run g = ⟨passed p (), g.after p, p.notes⟩ := run_through h

theorem run_abandon (h : Chain.abandon g.now g.chain = p) :
    abandon.run g = ⟨passed p (), g.after p, p.notes⟩ := run_through h

end Guard

/-- A whole call through the guard that is part of a state, with `work` inside. -/
def Act.guarded {σ α : Type} (part : σ → Guard) (put : Guard → σ → σ)
    (work : Act σ (Except Failure α)) : Act σ (Except Failure α) := do
  match ← Guard.enter.on part put with
  | .error f => return .error f
  | .ok () =>
    let r ← work
    (Guard.leave (r.map fun _ => ())).on part put
    return r

namespace Act

variable {σ α : Type} {part : σ → Guard} {put : Guard → σ → σ} {work : Act σ (Except Failure α)}
  {s s₁ s₂ s₃ : σ} {inward within outward : List Note}

/-- A call that is let in ends with the result of the work inside, if it gets out. -/
theorem run_guarded {r : Except Failure α} {out : Except Crash Unit}
    (henter : (Guard.enter.on part put).run s = ⟨.ok (.ok ()), s₁, inward⟩)
    (hwork : work.run s₁ = ⟨.ok r, s₂, within⟩)
    (hleave : ((Guard.leave (r.map fun _ => ())).on part put).run s₂ = ⟨out, s₃, outward⟩) :
    (guarded part put work).run s =
      ⟨out.map fun _ => r, s₃, inward ++ (within ++ outward)⟩ := by
  unfold guarded
  rw [run_bind_ok henter]
  simp only
  rw [run_bind_ok hwork]
  cases out with
  | ok _ =>
    rw [run_bind_ok hleave, run_pure, List.append_nil]
    rfl
  | error c =>
    rw [run_bind_error _ hleave]
    rfl

/-- A call that is refused ends with the refusal. -/
theorem run_guarded_refused {f : Failure}
    (henter : (Guard.enter.on part put).run s = ⟨.ok (.error f), s₁, inward⟩) :
    (guarded part put work).run s = ⟨.ok (.error f), s₁, inward⟩ := by
  unfold guarded
  rw [run_bind_ok henter, run_pure, List.append_nil]

end Act

end ServiceMesh
