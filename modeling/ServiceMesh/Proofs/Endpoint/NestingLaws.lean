-- The laws of calls through middlewares: the record of a call tells which layers it went through
-- and where it turned round, keeping it changes nothing, and calls through a guard go so.
import ServiceMesh.Proofs.Endpoint.Built

namespace ServiceMesh

variable {σ α β γ : Type}

/-! ## The record changes nothing -/

/-- What is left of a run without its record. -/
def Outcome.forget (o : Outcome (Recorded σ β) γ) : Outcome σ γ := ⟨o.result, o.state.1, o.notes⟩

/-- The layers around an endpoint, without a record. -/
def plainCall (layers : List (Layered σ α β)) (inner : Endpoint σ α β) : Endpoint σ α β :=
  (⟨layers.map Layered.middleware⟩ : Stack σ α β).build inner

variable {s : σ} {log : List (Mark β)}

/-- A layer lets a call out in the same way with the record as without. -/
theorem forget_out (out : Except Failure β → Act σ (Except Failure β)) (drop : Act σ Unit)
    {a : Act (Recorded σ β) (Except Failure β)} {b : Act σ (Except Failure β)}
    (h : (a.run (s, log)).forget = b.run s) (name : String) :
    ((do
      let r ← a.releasing (beside drop)
      keepMark (.left name r)
      beside (out r)).run (s, log)).forget = (b.releasing drop >>= out).run s := by
  rcases hrun : a.run (s, log) with ⟨c | seen, ⟨s₂, log₂⟩, notes⟩
  all_goals
    rw [hrun] at h
    have hb := h.symm
    unfold Outcome.forget at hb
    simp only at hb
  · rw [Act.run_bind_error _ (Act.run_releasing_error hrun),
      Act.run_bind_error _ (Act.run_releasing_error hb)]
    rfl
  · rw [Act.run_bind_ok (Act.run_releasing_ok hrun), Act.run_bind_ok (run_keepMark _ _ _),
      Act.run_bind_ok (Act.run_releasing_ok hb)]
    rfl

/-- A call goes in the same way with a record as without. -/
theorem forget_recordedCall (layers : List (Layered σ α β)) (inner : Endpoint σ α β) (x : α)
    (s : σ) (log : List (Mark β)) :
    ((recordedCall layers inner x).run (s, log)).forget = (plainCall layers inner x).run s := by
  induction layers generalizing x s log with
  | nil => rfl
  | cons l layers ih =>
    unfold recordedCall plainCall
    rw [List.map_cons, List.map_cons, Stack.build_cons, Stack.build_cons]
    change (((l.recorded.decide x) >>= _).run (s, log)).forget = ((l.decide x) >>= _).run s
    rcases hrun : (l.decide x).run s with ⟨c | t, s₁, notes⟩
    · rw [Act.run_bind_error _ (run_recorded_decide hrun log), Act.run_bind_error _ hrun]
      rfl
    rw [Act.run_bind_ok (run_recorded_decide hrun log), Act.run_bind_ok hrun]
    cases t with
    | refuse r => rfl
    | delegate y out drop =>
      have hout := forget_out out drop (ih y s₁ (log ++ [.entered l.name])) l.name
      exact congrArg (fun o => (⟨o.result, o.state, notes ++ o.notes⟩ : Outcome σ _)) hout

/-! ## The layers of a guard hand on what they see -/

namespace Guard

variable {part : σ → Guard} {put : Guard → σ → σ}

/-- The layer of a guard at a place. -/
def layered (part : σ → Guard) (put : Guard → σ → σ) (i : Nat) : Layered σ α β :=
  ⟨toString i, decideAt part put i⟩

theorem handsOn_layered (i : Nat) : (layered part put i : Layered σ α β).HandsOn := by
  rintro out ⟨x, s, y, drop, s', notes, hdecide⟩ seen s₁ r s₂ notes' hout
  change (decideAt part put i x).run s = _ at hdecide
  unfold decideAt at hdecide
  rcases henter : ((enterAt i).on part put).run s with ⟨c | entered, s₃, more⟩
  · rw [Act.run_bind_error _ henter] at hdecide
    cases hdecide
  rw [Act.run_bind_ok henter] at hdecide
  cases entered with
  | error f => cases hdecide
  | ok _ =>
    cases hdecide
    rcases hnotice : ((noticeAt i fun now l => l.leave now (seen.map fun _ => ())).on part put).run
      s₁ with ⟨c | _, s₄, more'⟩
    · rw [Act.run_bind_error _ hnotice] at hout
      cases hout
    · rw [Act.run_bind_ok hnotice] at hout
      cases hout
      rfl

/-- The layers of a guard are added one after the other. -/
theorem stack_eq (part : σ → Guard) (put : Guard → σ → σ) (n : Nat) :
    (stack part put n : Stack σ α β) =
      .of (((List.range n).map fun i => .add (layered part put i)).map (.map Layered.middleware)) := by
  have hlayers : ∀ places : List Nat,
      (places.map fun i => Stack.Addition.add (layered part put i : Layered σ α β)).filterMap
        Stack.Addition.layer? = places.map (layered part put) := by
    intro places
    induction places with
    | nil => rfl
    | cons i places ih =>
      rw [List.map_cons, List.filterMap_cons, ih]
      rfl
  rw [Stack.of_map_eq, hlayers, List.map_map]
  exact congrArg Stack.mk (layers_stack part put n)

end Guard

/-! ## The laws -/

/-- How calls go through the layers that were added around an endpoint. -/
structure Nests (additions : List (Stack.Addition (Layered σ α β))) (inner : Endpoint σ α β) :
    Prop where
  /-- Every call goes in through the layers at hand in the order in which they were added, up to
  the first that refuses it or to the inner endpoint, and out through the same ones in
  reverse. -/
  told : ∀ x s log, Told (additions.filterMap Stack.Addition.layer?) inner log
    (((Stack.of (additions.map (.map fun l => l.recorded.middleware))).build
      (Endpoint.recorded inner) x).run (s, log))
  /-- Without the record, the call does the same. -/
  forgets : ∀ x s log,
    (((Stack.of (additions.map (.map fun l => l.recorded.middleware))).build
      (Endpoint.recorded inner) x).run (s, log)).forget =
    ((Stack.of (additions.map (.map Layered.middleware))).build inner x).run s
  /-- The layers of a guard are such layers, and hand on what they see. -/
  guards : ∀ part put n, (Guard.stack part put n : Stack σ α β) =
    .of (((List.range n).map fun i => .add (Guard.layered part put i)).map
      (.map Layered.middleware)) ∧
    ∀ i, (Guard.layered part put i : Layered σ α β).HandsOn
  /-- A whole call through a session goes through the layers of its guard. -/
  sessions : ∀ work : Act (Session α) (Except Failure α),
    (∀ s, ∃ r, (work.run s).result = .ok r) →
    (∀ s, (work.run s).state.guard.chain.length = s.guard.chain.length) →
    ∀ s, (Session.call work).run s = (Session.callBuilt work).run s

/-- Whatever layers were added around an endpoint, calls go in through them in the order in which
they were added, and come out in reverse. -/
theorem calls_go_in_as_layers_were_added_and_out_in_reverse
    (additions : List (Stack.Addition (Layered σ α β))) (inner : Endpoint σ α β) :
    Nests additions inner := by
  refine ⟨?_, ?_, fun part put n => ⟨Guard.stack_eq part put n, Guard.handsOn_layered⟩,
    fun work hends hkeeps => Session.run_call_eq_built hends hkeeps⟩
  · intro x s log
    rw [Stack.of_map_eq]
    exact told_recordedCall _ inner x s log
  · intro x s log
    rw [Stack.of_map_eq, Stack.of_map_eq]
    exact forget_recordedCall _ inner x s log

/-- A layer that hands on every call as it is. -/
def Layered.clear (name : String) : Layered Unit Nat Nat :=
  ⟨name, fun x => pure (.delegate x pure (pure ()))⟩

/-- A layer that refuses every call. -/
def Layered.closed (name : String) : Layered Unit Nat Nat :=
  ⟨name, fun _ => pure (.refuse (.error (.badGateway name)))⟩

/-- The call does not come to the layer behind the one that refuses it. -/
example :
    ((recordedCall [.clear "a", .clear "b", .closed "c", .clear "d"] (fun x => pure (.ok (2 * x)))
      21).run ((), [])).state.2 =
    [.entered "a", .entered "b", .entered "c", .left "b" (.error (.badGateway "c")),
      .left "a" (.error (.badGateway "c"))] := rfl

end ServiceMesh
