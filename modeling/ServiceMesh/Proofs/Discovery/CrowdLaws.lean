-- The law of calls that pick from the same endpoints: together they go round, and a
-- call misses an endpoint that always answers only if others have picked it meanwhile.
import ServiceMesh.Proofs.Discovery.Crowd
import ServiceMesh.Proofs.Discovery.RetryLaws

namespace ServiceMesh

variable {κ τ ρ : Type}

/-! ## Endpoints -/

/-- An endpoint that always answers at once, and without failure. -/
def Habits.Prompt (may : Habits κ ρ) (e : κ) : Prop := ∀ t, may e t → ∃ x, t = .ended 0 (.ok x)

/-- Endpoints that answer sooner or later, with enough time for that. -/
structure Habits.InTime (may : Habits κ ρ) (endpoints : List κ) : Prop where
  answers : ∀ e ∈ endpoints, ∃ t, may e t
  never_late : ∀ e ∈ endpoints, ¬ may e .overran

namespace Crowd

variable {factory : Factory τ κ} {r : Retry} {may : Habits κ ρ} {b : Backends κ} {c : Crowd κ τ ρ}
  {past : List (Event ρ)}

/-! ## What a call has behind it -/

/-- What a stage tells of the picks and of the turns that a call has had. What it tried in vain
was no endpoint that always answers. -/
def Tracks (r : Retry) (may : Habits κ ρ) (made : List κ) (turns : Nat) : Retry.Stage κ ρ → Prop
  | .asking p =>
    made.length = p.failures.length ∧ p.failures.length < r.attempts ∧
      turns = 2 * p.failures.length ∧ ∀ e ∈ made, ¬ may.Prompt e
  | .calling e p =>
    ∃ vain, made = vain ++ [e] ∧ vain.length = p.failures.length ∧
      p.failures.length < r.attempts ∧ turns = 2 * p.failures.length + 1 ∧
      ∀ e ∈ vain, ¬ may.Prompt e
  | .ended _ (.ok _) => turns ≤ 2 * r.attempts
  | .ended _ (.error _) =>
    made.length = r.attempts ∧ turns ≤ 2 * r.attempts ∧ ∀ e ∈ made, ¬ may.Prompt e

/-- All that holds of a crowd after any events. -/
structure Good (r : Retry) (may : Habits κ ρ) (b : Backends κ) (past : List (Event ρ))
    (c : Crowd κ τ ρ) : Prop where
  set : c.backends.set = b.set
  feed : c.backends.feed = b.feed
  cursor : c.backends.rotation.cursor = (b.rotation.cursor + c.picks.length) % UInt64.size
  rotates : ∀ k i x, c.picks[k]? = some (i, x) →
    ∃ e, b.set.endpoints[b.place k]? = some e ∧ x = .ok e
  unborn : ∀ i, c.calls.length ≤ i → madeBy i c.picks = [] ∧ turns i past = 0
  tracks : ∀ i s, c.calls[i]? = some s → Tracks r may (madeBy i c.picks) (turns i past) s

theorem good_start (hcursor : b.rotation.cursor < UInt64.size) (t : τ) :
    Good r may b ([] : List (Event ρ)) ⟨b, t, [], []⟩ where
  set := rfl
  feed := rfl
  cursor := (Nat.mod_eq_of_lt hcursor).symm
  rotates := by simp
  unborn := fun _ _ => ⟨rfl, rfl⟩
  tracks := by simp

theorem good_arrive (g : Good r may b past c) :
    Good r may b (past ++ [.arrive]) (c.step factory r .arrive) where
  set := g.set
  feed := g.feed
  cursor := g.cursor
  rotates := g.rotates
  unborn := by
    intro i hi
    have hlength : (c.step factory r .arrive).calls.length = c.calls.length + 1 :=
      List.length_append
    rw [turns_snoc]
    exact g.unborn i (by omega)
  tracks := by
    intro i s hs
    rw [turns_snoc]
    have hcalls : (c.calls ++ [.asking {}])[i]? = some s := hs
    rcases Nat.lt_trichotomy i c.calls.length with hi | rfl | hi
    · rw [List.getElem?_append_left hi] at hcalls
      exact g.tracks i s hcalls
    · rw [List.getElem?_concat_length] at hcalls
      cases hcalls
      obtain ⟨hmade, hturns⟩ := g.unborn _ (Nat.le_refl _)
      show Tracks r may (madeBy c.calls.length c.picks) _ _
      rw [hmade]
      exact ⟨rfl, r.attempts_pos, hturns, by simp⟩
    · rw [List.getElem?_eq_none (by rw [List.length_append, List.length_singleton]; omega)]
        at hcalls
      cases hcalls

/-- A turn of a call leaves what is behind all others as it was. -/
theorem Good.turn (g : Good r may b past c) {i : Nat} {s : Retry.Stage κ ρ} {e : Event ρ}
    {picks : List (Nat × Except Failure κ)} (hi : i < c.calls.length)
    (hturn : ∀ j, e.isTurnOf j = (i == j)) (hpicks : ∀ j ≠ i, madeBy j picks = madeBy j c.picks)
    (hs : Tracks r may (madeBy i picks) (turns i past + 1) s) :
    (∀ j, (c.calls.set i s).length ≤ j → madeBy j picks = [] ∧ turns j (past ++ [e]) = 0) ∧
      ∀ j s', (c.calls.set i s)[j]? = some s' →
        Tracks r may (madeBy j picks) (turns j (past ++ [e])) s' := by
  have hother : ∀ j ≠ i, turns j (past ++ [e]) = turns j past := by
    intro j hj
    rw [turns_snoc, hturn]
    simp [Ne.symm hj]
  have hself : turns i (past ++ [e]) = turns i past + 1 := by
    rw [turns_snoc, hturn]
    simp
  constructor
  · intro j hj
    rw [List.length_set] at hj
    have hne : j ≠ i := by omega
    rw [hpicks j hne, hother j hne]
    exact g.unborn j hj
  · intro j s' hs'
    by_cases hne : j = i
    · subst hne
      rw [List.getElem?_set_self hi] at hs'
      cases hs'
      rw [hself]
      exact hs
    · rw [List.getElem?_set_ne (Ne.symm hne)] at hs'
      rw [hpicks j hne, hother j hne]
      exact g.tracks j s' hs'

/-! ## Picks and answers -/

/-- A pick takes the next endpoint of the round. -/
theorem step_pick (factory : Factory τ κ) (g : Good r may b past c) (hsettled : b.Settled)
    (hsome : b.set.endpoints ≠ []) {i : Nat} {p : Retry.Progress}
    (h : c.calls[i]? = some (.asking p)) :
    ∃ e, b.set.endpoints[b.place c.picks.length]? = some e ∧ c.step factory r (.pick i) =
      ⟨{ c.backends with rotation := c.backends.rotation.advance }, c.workshop,
        c.calls.set i (.calling e p), c.picks ++ [(i, .ok e)]⟩ := by
  have hlt : b.place c.picks.length < b.set.endpoints.length :=
    Nat.mod_lt _ (List.length_pos_iff.mpr hsome)
  have hend := List.getElem?_eq_getElem hlt
  have hround : c.backends.rotation.pick c.backends.set.endpoints =
      (.ok b.set.endpoints[b.place c.picks.length], c.backends.rotation.advance) := by
    have hplace : c.backends.rotation.cursor % b.set.endpoints.length = b.place c.picks.length := by
      rw [g.cursor]
      rfl
    unfold Rotation.pick
    rw [g.set, hplace, hend]
  have hsettled' : c.backends.Settled := by
    unfold Backends.Settled
    rw [g.set, g.feed]
    exact hsettled
  obtain ⟨notes, hpick⟩ := Backends.pick_settled factory hsettled' c.workshop
  refine ⟨_, hend, ?_⟩
  show c.pick factory r i = _
  unfold pick
  simp only [h, hpick, hround]
  rfl

theorem Tracks.picked {made : List κ} {turns : Nat} {p : Retry.Progress}
    (h : Tracks r may made turns (.asking p)) (e : κ) :
    Tracks r may (made ++ [e]) (turns + 1) (.calling e p) := by
  obtain ⟨hmade, hleft, hturns, hvain⟩ := h
  exact ⟨made, rfl, hmade, hleft, by rw [hturns], hvain⟩

/-- An endpoint that fails is none that always answers. -/
theorem not_prompt {e : κ} {took : Nat} {f : Failure} (h : may e (.ended took (.error f))) :
    ¬ may.Prompt e := by
  intro hprompt
  obtain ⟨x, hx⟩ := hprompt _ h
  cases hx

theorem Tracks.answered {made : List κ} {turns : Nat} {e : κ} {p : Retry.Progress} {t : Timed ρ}
    (h : Tracks r may made turns (.calling e p)) (ht : may e t) (hlate : t ≠ .overran) :
    Tracks r may made (turns + 1) (r.answered p t) := by
  obtain ⟨vain, rfl, hlength, hleft, rfl, hvain⟩ := h
  unfold Retry.answered
  rcases t with ⟨took, f | x⟩ | _
  · have hall : ∀ e' ∈ vain ++ [e], ¬ may.Prompt e' := by
      intro e' he'
      rcases List.mem_append.mp he' with he' | he'
      · exact hvain e' he'
      · rw [List.mem_singleton.mp he']
        exact not_prompt ht
    have hmade : (vain ++ [e]).length = (p.failed took f).failures.length := by
      simp [Retry.Progress.failed, hlength]
    rw [Retry.outcome, Retry.after]
    by_cases hmore : (p.failed took f).failures.length < r.attempts
    · rw [if_pos hmore]
      refine ⟨hmade, hmore, ?_, hall⟩
      rw [← hmade, List.length_append, hlength, List.length_singleton]
      omega
    · rw [if_neg hmore]
      rw [List.length_append, List.length_singleton] at hmade
      refine ⟨?_, by omega, hall⟩
      rw [List.length_append, List.length_singleton]
      omega
  · show 2 * p.failures.length + 1 + 1 ≤ 2 * r.attempts
    omega
  · exact absurd rfl hlate

theorem good_pick (g : Good r may b past c) (hsettled : b.Settled) (hsome : b.set.endpoints ≠ [])
    {i : Nat} {p : Retry.Progress} (h : c.calls[i]? = some (.asking p)) :
    Good r may b (past ++ [.pick i]) (c.step factory r (.pick i)) := by
  obtain ⟨e, hend, hstep⟩ := step_pick factory g hsettled hsome h
  have hi := (List.getElem?_eq_some_iff.mp h).1
  have hothers : ∀ j ≠ i, madeBy j (c.picks ++ [(i, .ok e)]) = madeBy j c.picks := by
    intro j hj
    exact madeBy_snoc_ne (Ne.symm hj) c.picks _
  have hself : Tracks r may (madeBy i (c.picks ++ [(i, .ok e)])) (turns i past + 1)
      (.calling e p) := by
    rw [madeBy_snoc_self]
    exact (g.tracks i _ h).picked e
  have hturn : ∀ j, (Event.pick i : Event ρ).isTurnOf j = (i == j) := fun _ => rfl
  obtain ⟨hunborn, htracks⟩ := g.turn hi hturn hothers hself
  rw [hstep]
  refine ⟨g.set, g.feed, ?_, ?_, hunborn, htracks⟩
  · show (c.backends.rotation.cursor + 1) % UInt64.size = _
    rw [g.cursor, Nat.mod_add_mod, List.length_append, List.length_singleton, Nat.add_assoc]
  · intro k j x hk
    rcases Nat.lt_trichotomy k c.picks.length with hlt | rfl | hlt
    · rw [List.getElem?_append_left hlt] at hk
      exact g.rotates k j x hk
    · rw [List.getElem?_concat_length] at hk
      cases hk
      exact ⟨e, hend, rfl⟩
    · rw [List.getElem?_eq_none (by rw [List.length_append, List.length_singleton]; omega)] at hk
      cases hk

/-- What a call picks is one of the endpoints. -/
theorem Good.mem_of_made (g : Good r may b past c) {i : Nat} {e : κ}
    (h : e ∈ madeBy i c.picks) : e ∈ b.set.endpoints := by
  unfold madeBy at h
  obtain ⟨⟨j, x⟩, hmem, hx⟩ := List.mem_filterMap.mp h
  obtain ⟨k, hk⟩ := List.mem_iff_getElem?.mp hmem
  obtain ⟨e', hend, rfl⟩ := g.rotates k j x hk
  by_cases hj : j = i
  · simp only [hj, if_true, Except.toOption, Option.some.injEq] at hx
    rw [← hx]
    exact List.mem_of_getElem? hend
  · simp [hj] at hx

theorem good_answer (g : Good r may b past c) (htime : may.InTime b.set.endpoints) {i : Nat}
    {e : κ} {p : Retry.Progress} {t : Timed ρ} (h : c.calls[i]? = some (.calling e p))
    (ht : may e t) : Good r may b (past ++ [.answer i t]) (c.step factory r (.answer i t)) := by
  have hi := (List.getElem?_eq_some_iff.mp h).1
  have hstage := g.tracks i _ h
  have hmem : e ∈ b.set.endpoints := by
    obtain ⟨vain, hmade, -⟩ := hstage
    apply g.mem_of_made (i := i)
    rw [hmade]
    simp
  have hlate : t ≠ .overran := by
    rintro rfl
    exact htime.never_late e hmem ht
  have hturn : ∀ j, (Event.answer i t).isTurnOf j = (i == j) := fun _ => rfl
  obtain ⟨hunborn, htracks⟩ := g.turn hi hturn (fun _ _ => rfl) (hstage.answered ht hlate)
  have hstep : c.step factory r (.answer i t) =
      { c with calls := c.calls.set i (r.answered p t) } := by
    show c.answer r i t = _
    unfold answer
    rw [h]
  rw [hstep]
  exact ⟨g.set, g.feed, g.cursor, g.rotates, hunborn, htracks⟩

/-! ## Whole runs -/

theorem good_reached (hsettled : b.Settled) (hcursor : b.rotation.cursor < UInt64.size)
    (hsome : b.set.endpoints ≠ []) (htime : may.InTime b.set.endpoints) {t : τ}
    (h : Reached factory r may b t past c) : Good r may b past c := by
  induction h with
  | start => exact good_start hcursor t
  | @step past c e before possible ih =>
    cases e with
    | arrive => exact good_arrive ih
    | pick i =>
      obtain ⟨p, hp⟩ := possible
      exact good_pick ih hsettled hsome hp
    | answer i t =>
      obtain ⟨e, p, hp, ht⟩ := possible
      exact good_answer ih htime hp ht

/-! ## The law -/

/-- A call is done with it, or has called an endpoint that is sure to answer. -/
def Served (may : Habits κ ρ) (c : Crowd κ τ ρ) (i : Nat) : Prop :=
  (∃ spent x, c.calls[i]? = some (.ended spent (.ok x))) ∨
    ∃ e p, c.calls[i]? = some (.calling e p) ∧ may.Prompt e

/-- Who picks an endpoint that always answers is served. -/
theorem Good.served (g : Good r may b past c) {i : Nat} {e : κ} (he : e ∈ madeBy i c.picks)
    (hprompt : may.Prompt e) : c.Served may i := by
  by_cases hi : i < c.calls.length
  · have hs := List.getElem?_eq_getElem hi
    have hstage := g.tracks i _ hs
    cases hcall : c.calls[i] with
    | asking p =>
      rw [hcall] at hstage
      exact absurd hprompt (hstage.2.2.2 e he)
    | calling e' p =>
      rw [hcall] at hstage hs
      obtain ⟨vain, hmade, -, -, -, hvain⟩ := hstage
      rw [hmade] at he
      rcases List.mem_append.mp he with he | he
      · exact absurd hprompt (hvain e he)
      · rw [List.mem_singleton.mp he] at hprompt
        exact Or.inr ⟨e', p, hs, hprompt⟩
    | ended spent result =>
      rw [hcall] at hstage hs
      cases result with
      | ok x => exact Or.inl ⟨spent, x, hs⟩
      | error f => exact absurd hprompt (hstage.2.2 e he)
  · rw [(g.unborn i (Nat.not_lt.mp hi)).1] at he
    cases he

/-- What holds of calls that share backends that stay as they are. -/
structure Sharing (factory : Factory τ κ) (r : Retry) (may : Habits κ ρ) (b : Backends κ)
    (past : List (Event ρ)) (c : Crowd κ τ ρ) : Prop where
  /-- The stages of a call are those of the call itself. -/
  stagewise : ∀ {σ : Type} (pick : Act σ (Except Failure κ)) (call : κ → Nat → Act σ (Timed ρ)),
    r.Stagewise pick call
  /-- Every pick, of whatever call, takes the endpoint at the next place. -/
  rotates : ∀ k i x, c.picks[k]? = some (i, x) →
    ∃ e, b.set.endpoints[b.place k]? = some e ∧ x = .ok e
  /-- Picks that follow each other take different places, up to a whole round. So the attempts
  of a call go on to endpoints that it has not tried as long as no other call picks between
  them. -/
  moves_on : ∀ before window after, c.picks = before ++ window ++ after →
    b.Unbroken before.length window.length → window.length ≤ b.set.endpoints.length →
    ((List.range window.length).map fun d => b.place (before.length + d)).Nodup
  /-- If a call fails, others picked every endpoint that always answers while it tried, and were
  served. -/
  fails_only_if_crossed : ∀ i spent f, c.calls[i]? = some (.ended spent (.error f)) →
    ∀ before window after, c.picks = before ++ window ++ after →
      (∀ x ∈ before ++ after, x.1 ≠ i) → b.Unbroken before.length window.length →
      ∀ e ∈ b.set.endpoints, may.Prompt e →
        ∃ j ≠ i, (j, Except.ok e) ∈ window ∧ c.Served may j
  /-- Every call goes on until it has ended, and ends after so many turns at the latest. -/
  ends : ∀ i < c.calls.length, turns i past ≤ 2 * r.attempts ∧
    ((∃ spent result, c.calls[i]? = some (.ended spent result)) ∨
      turns i past < 2 * r.attempts ∧ ∃ e : Event ρ, e.isTurnOf i ∧ e.Possible may c)

theorem mem_madeBy {i : Nat} {e : κ} {picks : List (Nat × Except Failure κ)}
    (h : (i, .ok e) ∈ picks) : e ∈ madeBy i picks := by
  unfold madeBy
  exact List.mem_filterMap.mpr ⟨_, h, by simp [Except.toOption]⟩

/-- A stretch of picks that has all picks of a call in it is as long at least. -/
theorem length_madeBy_le {i : Nat} {before after : List (Nat × Except Failure κ)}
    (window : List (Nat × Except Failure κ)) (h : ∀ x ∈ before ++ after, x.1 ≠ i) :
    (madeBy i (before ++ window ++ after)).length ≤ window.length := by
  have hnone : ∀ l : List (Nat × Except Failure κ), (∀ x ∈ l, x.1 ≠ i) → madeBy i l = [] := by
    intro l hl
    unfold madeBy
    rw [List.filterMap_eq_nil_iff]
    intro x hx
    exact if_neg (hl x hx)
  have hbefore := hnone before fun x hx => h x (List.mem_append_left _ hx)
  have hafter := hnone after fun x hx => h x (List.mem_append_right _ hx)
  unfold madeBy at hbefore hafter ⊢
  rw [List.filterMap_append, List.filterMap_append, hbefore, hafter]
  simpa using List.length_filterMap_le _ window

theorem nodup_places (b : Backends κ) {before window : List (Nat × Except Failure κ)}
    (hunbroken : b.Unbroken before.length window.length)
    (hlength : window.length ≤ b.set.endpoints.length) :
    ((List.range window.length).map fun d => b.place (before.length + d)).Nodup := by
  apply List.Nodup.map_on
  · intro d hd d' hd' heq
    rw [List.mem_range] at hd hd'
    exact Backends.place_injective hunbroken hd hd' hlength heq
  · exact List.nodup_range

/-- In a stretch of picks that is a round long at least, every endpoint has been picked. -/
theorem Good.picked_in (g : Good r may b past c)
    {before window after : List (Nat × Except Failure κ)}
    (hpicks : c.picks = before ++ window ++ after)
    (hunbroken : b.Unbroken before.length window.length)
    (hlength : b.set.endpoints.length ≤ window.length) {e : κ} (he : e ∈ b.set.endpoints) :
    ∃ j, (j, Except.ok e) ∈ window := by
  obtain ⟨q, hq, hend⟩ := List.mem_iff_getElem.mp he
  obtain ⟨d, hd, hplace⟩ := Backends.place_surjective hunbroken hlength hq
  have hwindow := List.getElem?_eq_getElem hd
  have hpick : c.picks[before.length + d]? = some window[d] := by
    rw [hpicks, List.append_assoc, List.getElem?_append_right (Nat.le_add_right _ _),
      Nat.add_sub_cancel_left, List.getElem?_append_left hd, hwindow]
  rcases hx : window[d] with ⟨j, x⟩
  rw [hx] at hpick
  obtain ⟨e', hend', rfl⟩ := g.rotates _ j x hpick
  rw [hplace, List.getElem?_eq_getElem hq, hend] at hend'
  cases hend'
  refine ⟨j, ?_⟩
  rw [← hx]
  exact List.getElem_mem hd

/-- A call has had its turns so far, and either it has ended or its next one can come. -/
theorem Good.goes_on (g : Good r may b past c) (htime : may.InTime b.set.endpoints) {i : Nat}
    (hi : i < c.calls.length) : turns i past ≤ 2 * r.attempts ∧
      ((∃ spent result, c.calls[i]? = some (.ended spent result)) ∨
        turns i past < 2 * r.attempts ∧ ∃ e : Event ρ, e.isTurnOf i ∧ e.Possible may c) := by
  have hs := List.getElem?_eq_getElem hi
  have hstage := g.tracks i _ hs
  cases hcall : c.calls[i] with
  | asking p =>
    rw [hcall] at hstage hs
    obtain ⟨-, hleft, hturns, -⟩ := hstage
    exact ⟨by omega, Or.inr ⟨by omega, .pick i, by simp [Event.isTurnOf], p, hs⟩⟩
  | calling e p =>
    rw [hcall] at hstage hs
    obtain ⟨vain, hmade, -, hleft, hturns, -⟩ := hstage
    have hmem : e ∈ b.set.endpoints := by
      apply g.mem_of_made (i := i)
      rw [hmade]
      simp
    obtain ⟨t, ht⟩ := htime.answers e hmem
    exact ⟨by omega, Or.inr ⟨by omega, .answer i t, by simp [Event.isTurnOf], e, p, hs, ht⟩⟩
  | ended spent result =>
    rw [hcall] at hstage hs
    refine ⟨?_, Or.inl ⟨spent, result, hs⟩⟩
    cases result with
    | ok x => exact hstage
    | error f => exact hstage.2.1

/-- Calls that share backends go round their endpoints together. -/
theorem calls_go_round_together (hsettled : b.Settled) (hcursor : b.rotation.cursor < UInt64.size)
    (hsome : b.set.endpoints ≠ []) (hmax : b.set.endpoints.length ≤ r.max)
    (htime : may.InTime b.set.endpoints) {t : τ} (h : Reached factory r may b t past c) :
    Sharing factory r may b past c := by
  have g := good_reached hsettled hcursor hsome htime h
  have hattempts : b.set.endpoints.length ≤ r.attempts :=
    le_trans hmax (Nat.le_max_right 1 r.max)
  constructor
  case stagewise => exact r.stagewise
  case rotates => exact g.rotates
  case moves_on =>
    intro before window after _ hunbroken hlength
    exact nodup_places b hunbroken hlength
  case fails_only_if_crossed =>
    intro i spent f hi before window after hpicks hall hunbroken e he hprompt
    obtain ⟨hmade, -, hvain⟩ := g.tracks i _ hi
    have hlength : b.set.endpoints.length ≤ window.length := by
      have hle := length_madeBy_le window hall
      rw [← hpicks, hmade] at hle
      omega
    obtain ⟨j, hj⟩ := g.picked_in hpicks hunbroken hlength he
    have hmem : e ∈ madeBy j c.picks := by
      apply mem_madeBy
      rw [hpicks]
      exact List.mem_append_left _ (List.mem_append_right _ hj)
    refine ⟨j, ?_, hj, g.served hmem hprompt⟩
    rintro rfl
    exact hvain e hmem hprompt
  case ends => exact fun i hi => g.goes_on htime hi

/-! ## Two calls that cross -/

/-- What the first of two endpoints always comes to. -/
def unwilling : Failure := .unavailable "unwilling"

/-- Two endpoints, of which the first always fails and the second always answers. -/
def halfWilling : Habits Bool Unit
  | false, t => t = .ended 0 (.error unwilling)
  | true, t => t = .ended 0 (.ok ())

/-- Builds the endpoints of two instances. -/
def pairing : Factory Unit Bool := fun i => pure (.ok (i.id == "b"))

def pair : Backends Bool :=
  ((Backends.begin pairing [⟨"a", "add", "127.0.0.1", 80, none, []⟩,
    ⟨"b", "add", "127.0.0.1", 81, none, []⟩]).run (.none "add", ())).state.1

/-- As many attempts as there are endpoints, within a second. -/
def twice : Retry := ⟨2, Span.ofMillis 1000⟩

/-- The second call picks between the two attempts of the first. -/
def crossing : List (Event Unit) :=
  [.arrive, .arrive, .pick 0, .pick 1, .answer 1 (.ended 0 (.ok ())),
    .answer 0 (.ended 0 (.error unwilling)), .pick 0, .answer 0 (.ended 0 (.error unwilling))]

theorem endpoints_pair : pair.set.endpoints = [false, true] := by
  decide +kernel

theorem settled_pair : pair.Settled := by
  unfold Backends.Settled
  decide +kernel

theorem inTime_halfWilling : halfWilling.InTime [false, true] where
  answers := by
    intro e _
    cases e
    · exact ⟨_, rfl⟩
    · exact ⟨_, rfl⟩
  never_late := by
    rintro (_ | _) _ h <;> cases h

theorem prompt_halfWilling : halfWilling.Prompt true := fun _ ht => ⟨(), ht⟩

/-- The crowd that the crossing calls come to. -/
def crossed : Crowd Bool Unit Unit := crossing.foldl (step pairing twice) ⟨pair, (), [], []⟩

theorem crossed_reached : Reached pairing twice halfWilling pair () crossing crossed := by
  have h₀ : Reached pairing twice halfWilling pair () [] ⟨pair, (), [], []⟩ := .start
  have h₁ := h₀.step (e := .arrive) trivial
  have h₂ := h₁.step (e := .arrive) trivial
  have h₃ := h₂.step (e := .pick 0) ⟨_, rfl⟩
  have h₄ := h₃.step (e := .pick 1) ⟨_, rfl⟩
  have h₅ := h₄.step (e := .answer 1 (.ended 0 (.ok ()))) ⟨true, _, rfl, rfl⟩
  have h₆ := h₅.step (e := .answer 0 (.ended 0 (.error unwilling))) ⟨false, _, rfl, rfl⟩
  have h₇ := h₆.step (e := .pick 0) ⟨_, rfl⟩
  exact h₇.step (e := .answer 0 (.ended 0 (.error unwilling))) ⟨false, _, rfl, rfl⟩

theorem crossing_calls_go_round_together :
    Sharing pairing twice halfWilling pair crossing crossed := by
  refine calls_go_round_together settled_pair (by decide +kernel) ?_ ?_ ?_ crossed_reached
  · rw [endpoints_pair]
    simp
  · rw [endpoints_pair]
    decide
  · rw [endpoints_pair]
    exact inTime_halfWilling

/-- The second attempt of the first call meets the endpoint that it has tried, and the call
fails. -/
theorem a_crossed_call_fails :
    ∃ c, Reached pairing twice halfWilling pair () crossing c ∧ pair.Settled ∧
      pair.set.endpoints = [false, true] ∧ pair.set.endpoints.length ≤ twice.max ∧
      halfWilling.InTime pair.set.endpoints ∧ halfWilling.Prompt true ∧
      madeBy 0 c.picks = [false, false] ∧
      ∃ spent f, c.calls[0]? = some (.ended spent (.error f)) := by
  refine ⟨crossed, crossed_reached, settled_pair, endpoints_pair, ?_, ?_, prompt_halfWilling, ?_,
    _, _, rfl⟩
  · rw [endpoints_pair]
    decide
  · rw [endpoints_pair]
    exact inTime_halfWilling
  · decide +kernel

end Crowd

end ServiceMesh
