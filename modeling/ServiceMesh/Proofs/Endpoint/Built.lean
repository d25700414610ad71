-- A call through a guard is a call of the endpoint that is built of the layers of its chain,
-- each of them put around the ones behind it.
import ServiceMesh.Proofs.Endpoint.Nesting
import ServiceMesh.Proofs.Endpoint.Sessions

namespace ServiceMesh

variable {σ α β : Type}

/-! ## Passages keep the number of layers -/

namespace Chain

variable {now : Moment} {c : Chain}

theorem length_leaveOne (r : Except Failure Unit) (l : Layer) (p : Passage) :
    (leaveOne now r l p).chain.length = p.chain.length + 1 := by
  unfold leaveOne
  generalize (if p.crash.isNone then l.leave now r else l.abandon now) = out
  rcases out with ⟨c | l', notes⟩ <;> rfl

theorem length_enter (now : Moment) (c : Chain) : (enter now c).1.chain.length = c.length := by
  induction c with
  | nil => rfl
  | cons l rest ih =>
    unfold enter
    rcases hl : l.enter now with ⟨l', notes, f | _⟩
    · rfl
    · simp only
      rcases hrest : enter now rest with ⟨p, f | _⟩ <;> rw [hrest] at ih
      · simp only
        rw [length_leaveOne, ih, List.length_cons]
      · simp only [List.length_cons, ih]

end Chain

/-! ## The layers of a guard in their places -/

namespace Guard

/-- A guard that is part of a state. -/
structure IsPart (part : σ → Guard) (put : Guard → σ → σ) : Prop where
  part_put : ∀ g s, part (put g s) = g
  put_put : ∀ g g' s, put g (put g' s) = put g s
  put_part : ∀ s, put (part s) s = s

variable {part : σ → Guard} {put : Guard → σ → σ} {s s₁ s₂ : σ} {front rest : Chain}
  {now : Moment} {l l' : Layer} {notes within : List Note} {inner : Endpoint σ α β} {x : α}
  {p : Chain.Passage} {f : Failure} {r : Except Failure β} {c : Crash}

theorem layers_stack (part : σ → Guard) (put : Guard → σ → σ) (n : Nat) :
    (stack part put n : Stack σ α β).layers = (List.range n).map (layerAt part put) := by
  have hrun : ∀ (places : List Nat) (stack : Stack σ α β),
      (places.foldl (fun stack i => stack.add (layerAt part put i)) stack).layers =
        stack.layers ++ places.map (layerAt part put) := by
    intro places
    induction places with
    | nil => exact fun stack => (List.append_nil _).symm
    | cons i places ih =>
      intro stack
      rw [List.foldl_cons, ih]
      simp [Stack.add]
  exact hrun _ _

/-- The layers from one place on around an endpoint. -/
def layersFrom (part : σ → Guard) (put : Guard → σ → σ) (first n : Nat) (inner : Endpoint σ α β) :
    Endpoint σ α β :=
  (⟨(List.range' first n).map (layerAt part put)⟩ : Stack σ α β).build inner

theorem build_stack (part : σ → Guard) (put : Guard → σ → σ) (n : Nat)
    (inner : Endpoint σ α β) : (stack part put n).build inner = layersFrom part put 0 n inner := by
  unfold layersFrom
  rw [← List.range_eq_range', ← layers_stack]

theorem layersFrom_succ (part : σ → Guard) (put : Guard → σ → σ) (first n : Nat)
    (inner : Endpoint σ α β) :
    layersFrom part put first (n + 1) inner =
      (layerAt part put first).wrap (layersFrom part put (first + 1) n inner) := by
  unfold layersFrom
  rw [List.range'_succ, List.map_cons, Stack.build_cons]

theorem getElem?_place (front rest : Chain) (l : Layer) :
    (front ++ l :: rest)[front.length]? = some l := by simp

theorem set_place (front rest : Chain) (l l' : Layer) :
    (front ++ l :: rest).set front.length l' = front ++ l' :: rest := by simp

theorem run_enterAt {entered : Except Failure Unit} (hs : part s = ⟨front ++ l :: rest, now⟩)
    (h : l.enter now = (l', notes, entered)) :
    ((enterAt front.length).on part put).run s =
      ⟨.ok entered, put ⟨front ++ l' :: rest, now⟩ s, notes⟩ := by
  refine Act.run_on ?_
  rw [hs]
  change enterAt front.length ⟨front ++ l :: rest, now⟩ = _
  unfold enterAt
  simp only [getElem?_place, h, set_place]

theorem run_noticeAt {notice : Moment → Layer → Except Crash Layer × List Note}
    (hs : part s = ⟨front ++ l :: rest, now⟩) (h : notice now l = (.ok l', notes)) :
    ((noticeAt front.length notice).on part put).run s =
      ⟨.ok (), put ⟨front ++ l' :: rest, now⟩ s, notes⟩ := by
  refine Act.run_on ?_
  rw [hs]
  change noticeAt front.length notice ⟨front ++ l :: rest, now⟩ = _
  unfold noticeAt
  simp only [getElem?_place, h, set_place]

theorem run_noticeAt_error {notice : Moment → Layer → Except Crash Layer × List Note}
    (hs : part s = ⟨front ++ l :: rest, now⟩) (h : notice now l = (.error c, notes)) :
    ((noticeAt front.length notice).on part put).run s =
      ⟨.error c, put ⟨front ++ l :: rest, now⟩ s, notes⟩ := by
  refine Act.run_on ?_
  rw [hs]
  change noticeAt front.length notice ⟨front ++ l :: rest, now⟩ = _
  unfold noticeAt
  simp only [getElem?_place, h]

/-! ## One layer around the others -/

/-- How a layer lets a call out that it let in, after the passage of the others. -/
def outAt (part : σ → Guard) (put : Guard → σ → σ) (i : Nat) (a : Act σ (Except Failure β)) :
    Act σ (Except Failure β) := do
  let r ← a.releasing ((noticeAt i fun now l => l.abandon now).on part put)
  (noticeAt i fun now l => l.leave now (r.map fun _ => ())).on part put
  return r

theorem run_layerAt_refused {next : Endpoint σ α β} (hs : part s = ⟨front ++ l :: rest, now⟩)
    (h : l.enter now = (l', notes, .error f)) :
    ((layerAt part put front.length).wrap next x).run s =
      ⟨.ok (.error f), put ⟨front ++ l' :: rest, now⟩ s, notes⟩ := by
  unfold layerAt decideAt Middleware.deciding
  simp only [bind_assoc]
  rw [Act.run_bind_ok (run_enterAt hs h)]
  simp

theorem run_layerAt {next : Endpoint σ α β} (hs : part s = ⟨front ++ l :: rest, now⟩)
    (h : l.enter now = (l', notes, .ok ())) :
    ((layerAt part put front.length).wrap next x).run s =
      let o := (outAt part put front.length (next x)).run (put ⟨front ++ l' :: rest, now⟩ s)
      ⟨o.result, o.state, notes ++ o.notes⟩ := by
  unfold layerAt decideAt Middleware.deciding
  simp only [bind_assoc]
  rw [Act.run_bind_ok (run_enterAt hs h)]
  simp only [pure_bind]
  rfl

/-- A layer sees the passage of the layers behind it. -/
theorem run_outAt {a : Act σ (Except Failure β)} (hs : part s = ⟨front ++ l :: p.chain, now⟩)
    (within : List Note) (h : a.run s₁ = ⟨passed p r, s, within ++ p.notes⟩) :
    let q := Chain.leaveOne now (r.map fun _ => ()) l p
    (outAt part put front.length a).run s₁ =
      ⟨passed q r, put ⟨front ++ q.chain, now⟩ s, within ++ q.notes⟩ := by
  unfold outAt Chain.leaveOne
  cases hcrash : p.crash with
  | none =>
    rw [passed_ok hcrash] at h
    rw [Act.run_bind_ok (Act.run_releasing_ok h)]
    simp only [Option.isNone_none, if_true]
    rcases hleave : l.leave now (r.map fun _ => ()) with ⟨c | l', more⟩
    · rw [Act.run_bind_error _ (run_noticeAt_error hs hleave)]
      simp [passed]
    · rw [Act.run_bind_ok (run_noticeAt hs hleave)]
      simp [passed]
  | some c =>
    rw [passed_error hcrash] at h
    rw [Act.run_bind_error _ (Act.run_releasing_error h)]
    simp only [Option.isNone_some, Bool.false_eq_true, if_false]
    rcases habandon : l.abandon now with ⟨c' | l', more⟩
    · rw [run_noticeAt_error hs habandon]
      simp [passed]
    · rw [run_noticeAt hs habandon]
      simp [passed]

/-! ## All layers -/

/-- A call that a layer refuses has come out again through the layers before that one. -/
theorem run_layersFrom_refused (hpart : IsPart part put) (front chain : Chain)
    (hs : part s = ⟨front ++ chain, now⟩) (h : Chain.enter now chain = (p, .error f)) :
    (layersFrom part put front.length chain.length inner x).run s =
      ⟨passed p (.error f), put ⟨front ++ p.chain, now⟩ s, p.notes⟩ := by
  induction chain generalizing front s p with
  | nil => cases h
  | cons l rest ih =>
    rw [List.length_cons, layersFrom_succ]
    unfold Chain.enter at h
    rcases henter : l.enter now with ⟨l', notes, f' | _⟩ <;> rw [henter] at h
    · cases h
      exact run_layerAt_refused hs henter
    · simp only at h
      rcases hrest : Chain.enter now rest with ⟨p', f' | _⟩ <;> rw [hrest] at h
      · cases h
        have hinside := ih (front ++ [l']) (s := put ⟨front ++ l' :: rest, now⟩ s)
          (by rw [hpart.part_put, List.append_assoc]; rfl) hrest
        simp only [hpart.put_put, List.append_assoc, List.length_append, List.length_singleton,
          List.singleton_append] at hinside
        rw [run_layerAt hs henter]
        simp only
        rw [run_outAt (hpart.part_put _ s) [] hinside]
        simp only [hpart.put_put, Except.map, List.nil_append]
        rfl
      · cases h

/-- A call that all layers let in comes to the inner endpoint, and its result goes out through
the layers as they are then. -/
theorem run_layersFrom (hpart : IsPart part put) (front chain front₂ chain₂ : Chain)
    {now₂ : Moment}     (hs : part s = ⟨front ++ chain, now⟩) (h : Chain.enter now chain = (p, .ok ()))
    (hinner : (inner x).run (put ⟨front ++ p.chain, now⟩ s) = ⟨.ok r, s₂, within⟩)
    (hs₂ : part s₂ = ⟨front₂ ++ chain₂, now₂⟩) (hfront : front₂.length = front.length)
    (hchain : chain₂.length = chain.length) :
    let q := Chain.leave now₂ (r.map fun _ => ()) chain₂
    (layersFrom part put front.length chain.length inner x).run s =
      ⟨passed q r, put ⟨front₂ ++ q.chain, now₂⟩ s₂, p.notes ++ (within ++ q.notes)⟩ := by
  induction chain generalizing front s p front₂ chain₂ with
  | nil =>
    cases h
    cases List.length_eq_zero_iff.mp hchain
    rw [← hs, hpart.put_part] at hinner
    simp only [Chain.leave, ← hs₂, hpart.put_part]
    simpa [layersFrom, Stack.build_nil, passed] using hinner
  | cons l rest ih =>
    rw [List.length_cons, layersFrom_succ]
    unfold Chain.enter at h
    rcases henter : l.enter now with ⟨l', notes, f' | _⟩ <;> rw [henter] at h
    · cases h
    simp only at h
    rcases hrest : Chain.enter now rest with ⟨p', f' | _⟩ <;> rw [hrest] at h
    · cases h
    cases h
    obtain ⟨l₂, rest₂, rfl⟩ := List.exists_cons_of_length_eq_add_one hchain
    have hinside := ih (front ++ [l']) (front₂ ++ [l₂]) rest₂
      (s := put ⟨front ++ l' :: rest, now⟩ s)
      (by rw [hpart.part_put, List.append_assoc]; rfl) hrest
      (by rw [hpart.put_put, List.append_assoc]; exact hinner)
      (by rw [List.append_assoc]; exact hs₂) (by simp [hfront]) (by simpa using hchain)
    simp only [List.length_append, List.length_singleton] at hinside
    rw [run_layerAt hs henter, ← hfront]
    rw [← hfront] at hinside
    simp only
    rw [List.append_assoc front₂, List.singleton_append, ← List.append_assoc p'.notes] at hinside
    rw [run_outAt (hpart.part_put _ s₂) _ hinside]
    simp only [hpart.put_put, List.append_assoc]
    rfl

/-! ## Whole calls -/

theorem run_lastly {a : Act σ α} {f : σ → σ} {result : Except Crash α}
    (h : a.run s = ⟨result, s₁, notes⟩) : (a.lastly f).run s = ⟨result, f s₁, notes⟩ := by
  change a s = _ at h
  change a.lastly f s = _
  unfold Act.lastly
  rw [h]

theorem put_tick (hpart : IsPart part put) (chain : Chain) (now : Moment) (s : σ) :
    put (part (put ⟨chain, now⟩ s)).tick (put ⟨chain, now⟩ s) = put (tick ⟨chain, now⟩) s := by
  rw [hpart.part_put, hpart.put_put]

/-- A call through a guard is a call of the endpoint that is built of its layers, as long as the
work inside comes to its end and leaves as many layers as there were. -/
theorem run_guarded_eq_around (hpart : IsPart part put) (work : Act σ (Except Failure β))
    (hends : ∀ s, ∃ r, (work.run s).result = .ok r)
    (hkeeps : ∀ s, (part (work.run s).state).chain.length = (part s).chain.length) (s : σ) :
    (Act.guarded part put work).run s =
      (around part put (part s).chain.length (fun _ : Unit => work) ()).run s := by
  let ticking : Endpoint σ Unit β := fun _ => do
    Act.modify fun s => put (part s).tick s
    work
  have hbuilt : (around part put (part s).chain.length (fun _ : Unit => work) ()) =
      (layersFrom part put ([] : Chain).length (part s).chain.length ticking ()).lastly
        fun s => put (part s).tick s := by
    unfold around
    dsimp only
    rw [build_stack]
    rfl
  rw [hbuilt]
  rcases hentered : Chain.enter (part s).now (part s).chain with ⟨p, f | _⟩
  · have hin : (enter.on part put).run s = _ := Act.run_on (run_enter hentered)
    have hrun : (layersFrom part put ([] : Chain).length (part s).chain.length ticking ()).run s =
      _ := run_layersFrom_refused hpart [] (part s).chain rfl hentered
    rw [run_lastly hrun, List.nil_append, put_tick hpart]
    cases hcrash : p.crash with
    | none =>
      rw [passed_ok hcrash] at hin ⊢
      exact Act.run_guarded_refused hin
    | some c =>
      rw [passed_error hcrash] at hin ⊢
      exact Act.run_bind_error _ hin
  · have hin : (enter.on part put).run s = _ := Act.run_on (run_enter hentered)
    rw [passed_ok (Chain.whole_of_admitted hentered)] at hin
    obtain ⟨r, hr⟩ := hends (put ((part s).after p) s)
    have hlength := hkeeps (put ((part s).after p) s)
    rcases hwork : work.run (put ((part s).after p) s) with ⟨result, s₂, within⟩
    rw [hwork] at hr hlength
    cases hr
    have hleave : ((leave (r.map fun _ => ())).on part put).run s₂ = _ :=
      Act.run_on (run_leave rfl)
    have hinner : (ticking ()).run (put ⟨[] ++ p.chain, (part s).now⟩ s) =
        ⟨.ok r, s₂, within⟩ := by
      unfold ticking
      rw [Act.run_bind_ok (Act.run_modify _ _), put_tick hpart]
      exact hwork
    have hcount : (part s₂).chain.length = (part s).chain.length := by
      rw [hlength, hpart.part_put]
      have hpassed := Chain.length_enter (part s).now (part s).chain
      rw [hentered] at hpassed
      exact hpassed
    have hrun := run_layersFrom hpart [] (part s).chain [] (part s₂).chain rfl hentered hinner rfl
      rfl hcount
    rw [Act.run_guarded hin hwork hleave, run_lastly hrun, List.nil_append, put_tick hpart,
      map_passed]
    rfl

end Guard

/-- A whole call through a session is a call of the endpoint that is built of its layers. -/
theorem Session.run_call_eq_built {work : Act (Session α) (Except Failure α)}
    (hends : ∀ s, ∃ r, (work.run s).result = .ok r)
    (hkeeps : ∀ s, (work.run s).state.guard.chain.length = s.guard.chain.length)
    (s : Session α) : (Session.call work).run s = (Session.callBuilt work).run s := by
  have hpart : Guard.IsPart Session.guard fun guard (s : Session α) => { s with guard } :=
    ⟨fun _ _ => rfl, fun _ _ _ => rfl, fun _ => rfl⟩
  unfold Session.call Session.callBuilt
  rw [Act.run_bind_ok (Act.run_get s)]
  exact Guard.run_guarded_eq_around hpart
    (do
      Act.modify fun s => { s with reached := s.reached + 1 }
      work) (fun s => hends _) (fun s => hkeeps _) s

end ServiceMesh
