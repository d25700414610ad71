-- Calls of one gateway method at the same time. Each takes its own picks, and all
-- pick from the same endpoints in turn, so that a pick of one call may fall between
-- any two picks of another.
import Mathlib.Data.List.Induction
import Mathlib.Data.List.Nodup
import Mathlib.Data.Nat.ModEq
import ServiceMesh.Proofs.Discovery.Rebuild
import ServiceMesh.Proofs.Discovery.Stages

namespace ServiceMesh

variable {κ τ ρ : Type}

/-- Backends, and the calls so far, those that have ended among them. -/
structure Crowd (κ τ ρ : Type) where
  backends : Backends κ
  /-- What the factory works on. -/
  workshop : τ
  calls : List (Retry.Stage κ ρ) := []
  /-- All picks, in order, each with the number of the call that it was made for. -/
  picks : List (Nat × Except Failure κ) := []

/-- What an endpoint may come to when it is called. -/
abbrev Habits (κ ρ : Type) := κ → Timed ρ → Prop

namespace Crowd

/-! ## Events -/

inductive Event (ρ : Type) where
  /-- A call begins. -/
  | arrive
  /-- A call picks. Calls are counted from 0. -/
  | pick (call : Nat)
  /-- What a call has called comes to something. -/
  | answer (call : Nat) (t : Timed ρ)

/-- Whether an event is a turn of a call. -/
def Event.isTurnOf (i : Nat) : Event ρ → Bool
  | .arrive => false
  | .pick j | .answer j _ => j == i

/-- Whether an event can happen: a call picks when it is to, and an endpoint that is called
comes to what it may come to. -/
def Event.Possible (may : Habits κ ρ) (c : Crowd κ τ ρ) : Event ρ → Prop
  | .arrive => True
  | .pick i => ∃ p, c.calls[i]? = some (.asking p)
  | .answer i t => ∃ e p, c.calls[i]? = some (.calling e p) ∧ may e t

section Step

variable (factory : Factory τ κ) (r : Retry)

def pick (i : Nat) (c : Crowd κ τ ρ) : Crowd κ τ ρ :=
  match c.calls[i]? with
  | some (.asking p) =>
    match (Backends.pick factory).run (c.backends, c.workshop) with
    | ⟨.ok picked, (backends, workshop), _⟩ =>
      ⟨backends, workshop, c.calls.set i (r.picked p picked), c.picks ++ [(i, picked)]⟩
    | ⟨.error _, (backends, workshop), _⟩ => { c with backends, workshop }
  | _ => c

def answer (i : Nat) (t : Timed ρ) (c : Crowd κ τ ρ) : Crowd κ τ ρ :=
  match c.calls[i]? with
  | some (.calling _ p) => { c with calls := c.calls.set i (r.answered p t) }
  | _ => c

def step (c : Crowd κ τ ρ) : Event ρ → Crowd κ τ ρ
  | .arrive => { c with calls := c.calls ++ [.asking {}] }
  | .pick i => c.pick factory r i
  | .answer i t => c.answer r i t

/-- The crowds that come about from backends on which nothing is called yet, with the events
that led there. -/
inductive Reached (may : Habits κ ρ) (b : Backends κ) (t : τ) :
    List (Event ρ) → Crowd κ τ ρ → Prop
  | start : Reached may b t [] ⟨b, t, [], []⟩
  | step {past : List (Event ρ)} {c : Crowd κ τ ρ} {e : Event ρ} (before : Reached may b t past c)
      (possible : e.Possible may c) : Reached may b t (past ++ [e]) (c.step factory r e)

end Step

/-! ## One call among others -/

/-- What a call has picked so far. -/
def madeBy (i : Nat) (picks : List (Nat × Except Failure κ)) : List κ :=
  picks.filterMap fun x => if x.1 = i then x.2.toOption else none

theorem madeBy_snoc_self (i : Nat) (picks : List (Nat × Except Failure κ)) (e : κ) :
    madeBy i (picks ++ [(i, .ok e)]) = madeBy i picks ++ [e] := by
  unfold madeBy
  rw [List.filterMap_append]
  simp [Except.toOption]

theorem madeBy_snoc_ne {i j : Nat} (h : j ≠ i) (picks : List (Nat × Except Failure κ))
    (x : Except Failure κ) : madeBy i (picks ++ [(j, x)]) = madeBy i picks := by
  unfold madeBy
  rw [List.filterMap_append]
  simp [h]

/-- The turns that a call has had. -/
def turns (i : Nat) (past : List (Event ρ)) : Nat := past.countP (·.isTurnOf i)

theorem turns_snoc (i : Nat) (past : List (Event ρ)) (e : Event ρ) :
    turns i (past ++ [e]) = turns i past + if e.isTurnOf i then 1 else 0 := by
  unfold turns
  rw [List.countP_append, List.countP_singleton]

end Crowd

/-! ## Places in a round -/

namespace Backends

/-- Nothing has been published that has not been read, or nothing more can be. -/
def Settled (b : Backends κ) : Prop := ¬ (b.feed.isOpen = true ∧ b.feed.version ≠ b.set.seen)

/-- The place of the pick of a number among the endpoints. -/
def place (b : Backends κ) (k : Nat) : Nat :=
  (b.rotation.cursor + k) % UInt64.size % b.set.endpoints.length

/-- The cursor does not start anew within so many picks from one on. -/
def Unbroken (b : Backends κ) (k m : Nat) : Prop :=
  (b.rotation.cursor + k) % UInt64.size + m ≤ UInt64.size

theorem place_add {b : Backends κ} {k m d : Nat} (h : b.Unbroken k m) (hd : d < m) :
    b.place (k + d) =
      ((b.rotation.cursor + k) % UInt64.size + d) % b.set.endpoints.length := by
  unfold Unbroken at h
  have hlt : (b.rotation.cursor + k) % UInt64.size + d < UInt64.size := by omega
  unfold place
  rw [← Nat.add_assoc, ← Nat.mod_add_mod, Nat.mod_eq_of_lt hlt]

/-- No endpoint has its turn twice before all others have had theirs. -/
theorem place_injective {b : Backends κ} {k m d d' : Nat} (h : b.Unbroken k m) (hd : d < m)
    (hd' : d' < m) (hm : m ≤ b.set.endpoints.length) (heq : b.place (k + d) = b.place (k + d')) :
    d = d' := by
  rw [place_add h hd, place_add h hd'] at heq
  have hmod := Nat.ModEq.add_left_cancel' _ heq
  exact Nat.ModEq.eq_of_lt_of_lt hmod (by omega) (by omega)

/-- In a whole round, every endpoint has its turn. -/
theorem place_surjective {b : Backends κ} {k m q : Nat} (h : b.Unbroken k m)
    (hm : b.set.endpoints.length ≤ m) (hq : q < b.set.endpoints.length) :
    ∃ d < m, b.place (k + d) = q := by
  generalize hn : b.set.endpoints.length = n at hm hq
  generalize hx : (b.rotation.cursor + k) % UInt64.size = x
  have hy : x % n < n := Nat.mod_lt x (by omega)
  -- The turn of the place comes later in the same round, or in the next one.
  obtain ⟨d, hd, hturn⟩ : ∃ d < n, (x % n + d) % n = q := by
    by_cases hle : x % n ≤ q
    · refine ⟨q - x % n, by omega, ?_⟩
      rw [Nat.add_sub_cancel' hle, Nat.mod_eq_of_lt hq]
    · refine ⟨n + q - x % n, by omega, ?_⟩
      rw [Nat.add_sub_cancel' (by omega), Nat.add_mod_left, Nat.mod_eq_of_lt hq]
  refine ⟨d, by omega, ?_⟩
  rw [place_add h (by omega), hn, hx, ← Nat.mod_add_mod, hturn]

theorem read_settled (factory : Factory τ κ) {b : Backends κ} (h : b.Settled) (t : τ) :
    (EndpointSet.read factory b.feed b.set).run t = ⟨.ok b.set, t, []⟩ :=
  EndpointSet.read_of_not_news h t

/-- A pick from settled backends takes the next endpoint in turn, and nothing else changes. -/
theorem pick_settled (factory : Factory τ κ) {b : Backends κ} (h : b.Settled) (t : τ) :
    ∃ notes, (pick factory).run (b, t) =
      ⟨.ok (b.rotation.pick b.set.endpoints).1,
        ({ b with rotation := (b.rotation.pick b.set.endpoints).2 }, t), notes⟩ :=
  pick_run (read_settled factory h t)

end Backends

end ServiceMesh
