-- Picks at the same time. A pick first reads the endpoints and then takes its turn, so that
-- other picks and changes of the set may come between the two.
import Mathlib.Data.List.Induction
import ServiceMesh.Proofs.Discovery.Crowd

namespace ServiceMesh

variable {κ τ : Type}

/-- Backends, and the picks from them so far, counted from 0 as they read the endpoints. -/
structure Pickers (κ τ : Type) where
  backends : Backends κ
  /-- What the factory works on. -/
  workshop : τ
  /-- What each pick has read. -/
  read : List (List κ) := []
  /-- The picks that are over, in the order of their turns, each with what it came to. -/
  made : List (Nat × Except Failure κ) := []

namespace Pickers

/-! ## Events -/

inductive Event where
  /-- Instances are published. -/
  | publish (instances : List Instance)
  /-- Nothing more will be published. -/
  | close
  /-- A pick begins: it reads the endpoints. -/
  | begin
  /-- A pick takes its turn. -/
  | take (pick : Nat)

/-- Nothing is published at an event. -/
def Event.Quiet (e : Event) : Prop := ∀ instances, e ≠ .publish instances

section Step

variable (factory : Factory τ κ)

/-- A pick begins, unless the factory breaks off. -/
def begin (c : Pickers κ τ) : Pickers κ τ :=
  match (Backends.refresh factory).run (c.backends, c.workshop) with
  | ⟨.ok endpoints, (backends, workshop), _⟩ =>
    { c with backends, workshop, read := c.read ++ [endpoints] }
  | ⟨.error _, (backends, workshop), _⟩ => { c with backends, workshop }

/-- A pick that has begun takes its turn, once, among the endpoints that it has read. -/
def take (i : Nat) (c : Pickers κ τ) : Pickers κ τ :=
  match c.read[i]? with
  | some endpoints =>
    if i ∈ c.made.map Prod.fst then c
    else
      let (picked, rotation) := c.backends.rotation.pick endpoints
      { c with backends := { c.backends with rotation }, made := c.made ++ [(i, picked)] }
  | none => c

def step (c : Pickers κ τ) : Event → Pickers κ τ
  | .publish instances => { c with backends := c.backends.publish instances }
  | .close => { c with backends := { c.backends with feed := c.backends.feed.close } }
  | .begin => c.begin factory
  | .take i => c.take i

/-- What events lead to. -/
def after (c : Pickers κ τ) (events : List Event) : Pickers κ τ := events.foldl (step factory) c

theorem after_snoc (c : Pickers κ τ) (past : List Event) (e : Event) :
    c.after factory (past ++ [e]) = (c.after factory past).step factory e :=
  List.foldl_append ..

theorem after_append (c : Pickers κ τ) (past later : List Event) :
    c.after factory (past ++ later) = (c.after factory past).after factory later :=
  List.foldl_append ..

end Step

end Pickers

/-! ## What one event can do -/

namespace EndpointSet

variable {factory : Factory τ κ}

/-- A rebuild is no reading of its own. -/
theorem seen_of_rebuild {is : List Instance} {s s' : EndpointSet κ} {t t' : τ}
    {notes : List Note} (h : (rebuild factory is s).run t = ⟨.ok s', t', notes⟩) :
    s'.seen = s.seen := by
  unfold rebuild at h
  rcases hrun : (is.foldlM (Rebuild.next s.service factory) ⟨s.cache, [], []⟩).run t with
    ⟨c | r, t₁, notes₁⟩
  · rw [Act.run_bind_error _ hrun] at h
    cases h
  · rw [Act.run_bind_ok hrun, Act.run_bind_ok (Act.run_note _ _)] at h
    cases h
    rfl

end EndpointSet

namespace Backends

variable {factory : Factory τ κ}

/-- After the feed is read, there is nothing in it to be read. -/
theorem settled_of_read {b : Backends κ} {s : EndpointSet κ} {t t' : τ} {notes : List Note}
    (h : (EndpointSet.read factory b.feed b.set).run t = ⟨.ok s, t', notes⟩) :
    ({ b with set := s } : Backends κ).Settled := by
  by_cases settled : b.Settled
  · rw [read_settled factory settled] at h
    cases h
    exact settled
  · unfold Settled at settled
    rw [not_not] at settled
    unfold EndpointSet.read at h
    rw [if_pos settled] at h
    rintro ⟨-, new⟩
    exact new (EndpointSet.seen_of_rebuild h).symm

theorem run_refresh_error {b : Backends κ} {t t' : τ} {crash : Crash} {notes : List Note}
    (h : (EndpointSet.read factory b.feed b.set).run t = ⟨.error crash, t', notes⟩) :
    (refresh factory).run (b, t) =
      ⟨.error crash, ({ b with set := b.set.brokenOff factory b.feed t }, t'), notes⟩ := by
  unfold refresh
  refine Act.run_bind_error _ ?_
  unfold Act.run at h
  unfold renew Act.run
  simp only [h]

end Backends

namespace Pickers

/-- What a pick that begins can do. It takes no turn. -/
inductive Begins (c : Pickers κ τ) : Pickers κ τ → Prop
  | broken (set : EndpointSet κ) (workshop : τ) (unsettled : ¬ c.backends.Settled) :
      Begins c { c with backends := { c.backends with set }, workshop }
  | reads {set : EndpointSet κ} (workshop : τ)
      (settled : ({ c.backends with set } : Backends κ).Settled)
      (same : c.backends.Settled → set = c.backends.set) :
      Begins c { c with backends := { c.backends with set }, workshop,
                        read := c.read ++ [set.endpoints] }

theorem begin_of_read {factory : Factory τ κ} {c : Pickers κ τ} {set : EndpointSet κ}
    {workshop : τ} {notes : List Note}
    (h : (EndpointSet.read factory c.backends.feed c.backends.set).run c.workshop =
      ⟨.ok set, workshop, notes⟩) :
    c.begin factory = { c with backends := { c.backends with set }, workshop,
                               read := c.read ++ [set.endpoints] } := by
  obtain ⟨notes', hrefresh⟩ := Backends.run_refresh h
  unfold begin
  rw [hrefresh]

theorem begins (factory : Factory τ κ) (c : Pickers κ τ) : Begins c (c.begin factory) := by
  rcases hread : (EndpointSet.read factory c.backends.feed c.backends.set).run c.workshop with
    ⟨crash | set, workshop, notes⟩
  · unfold begin
    rw [Backends.run_refresh_error hread]
    refine .broken _ workshop ?_
    intro settled
    rw [Backends.read_settled factory settled] at hread
    cases hread
  · rw [begin_of_read hread]
    refine .reads workshop (Backends.settled_of_read hread) ?_
    intro settled
    rw [Backends.read_settled factory settled] at hread
    cases hread
    rfl

/-- What a pick can do when its turn comes. It reads nothing more. -/
inductive Takes (i : Nat) (c : Pickers κ τ) : Pickers κ τ → Prop
  | idle : Takes i c c
  | fails (began : c.read[i]? = some []) :
      Takes i c { c with made := c.made ++ [(i, .error Rotation.nothing)] }
  | turn {endpoints : List κ} {e : κ} (began : c.read[i]? = some endpoints)
      (here : endpoints[c.backends.rotation.cursor % endpoints.length]? = some e) :
      Takes i c { c with
        backends := { c.backends with rotation := c.backends.rotation.advance }
        made := c.made ++ [(i, .ok e)] }

theorem takes (i : Nat) (c : Pickers κ τ) : Takes i c (c.take i) := by
  unfold take
  cases began : c.read[i]? with
  | none => exact .idle
  | some endpoints =>
    by_cases ended : i ∈ c.made.map Prod.fst
    · simp only [if_pos ended]
      exact .idle
    · simp only [if_neg ended]
      rcases c.backends.rotation.pick_turn endpoints with ⟨rfl, failed⟩ | ⟨e, here, taken⟩
      · rw [failed]
        exact .fails began
      · rw [taken]
        exact .turn began here

/-! ## A pick that is alone -/

/-- A pick between whose two steps nothing comes is one of the library. -/
theorem take_begin {factory : Factory τ κ} {c : Pickers κ τ} {picked : Except Failure κ}
    {backends : Backends κ} {workshop : τ} {notes : List Note}
    (new : c.read.length ∉ c.made.map Prod.fst)
    (h : (Backends.pick factory).run (c.backends, c.workshop) =
      ⟨.ok picked, (backends, workshop), notes⟩) :
    ∃ endpoints, (c.begin factory).take c.read.length =
      { backends, workshop, read := c.read ++ [endpoints]
        made := c.made ++ [(c.read.length, picked)] } := by
  rcases hread : (EndpointSet.read factory c.backends.feed c.backends.set).run c.workshop with
    ⟨crash | set, workshop', notes'⟩
  · unfold Backends.pick at h
    rw [Act.run_bind_error _ (Backends.run_refresh_error hread)] at h
    cases h
  · obtain ⟨more, hpick⟩ := Backends.pick_run hread
    have begun := begin_of_read hread
    rw [hpick] at h
    cases h
    refine ⟨set.endpoints, ?_⟩
    rw [begun]
    unfold take
    simp only [List.getElem?_concat_length, if_neg new]

end Pickers

end ServiceMesh
