-- The law of picks at the same time: whatever comes between reading the endpoints and taking
-- a turn, a pick comes to one of those that it read, and picks that read the same endpoints
-- and have their turns one after another go round them.
import Mathlib.Data.Int.CardIntervalMod
import ServiceMesh.Proofs.Discovery.Picks

namespace ServiceMesh

variable {κ τ : Type}

/-! ## Turns shared evenly -/

/-- The share of one among so many, as even as can be: rounded down, or rounded up. -/
def Fair (turns among share : Nat) : Prop :=
  share = turns / among ∨ share = (turns + among - 1) / among

/-- How many turns come to a place, of so many that go round from the first. -/
def turnsOf (first turns among place : Nat) : Nat :=
  Nat.count (fun j => (first + j) % among = place) turns

theorem turnsOf_succ (first turns among place : Nat) : turnsOf first (turns + 1) among place =
    turnsOf first turns among place + if (first + turns) % among = place then 1 else 0 :=
  Nat.count_succ ..

theorem div_round_up {turns among : Nat} (positive : 0 < among) (h : 0 < turns % among) :
    (turns + among - 1) / among = turns / among + 1 := by
  have less : turns % among < among := Nat.mod_lt _ positive
  have parts : turns + among - 1 = turns % among - 1 + among * (turns / among + 1) := by
    have whole := Nat.div_add_mod turns among
    rw [Nat.mul_add]
    omega
  rw [parts, Nat.add_mul_div_left _ _ positive, Nat.div_eq_of_lt (by omega), Nat.zero_add]

/-- A place has its turns at the numbers of one class. -/
theorem turn_iff {among place : Nat} (h : place < among) (first j : Nat) :
    (first + j) % among = place ↔ j ≡ place + (among - first % among) [MOD among] := by
  have back : first + (place + (among - first % among)) ≡ place [MOD among] := by
    have whole := Nat.div_add_mod first among
    have less : first % among < among := Nat.mod_lt _ (by omega)
    have sum : first + (place + (among - first % among)) =
        place + among * (first / among + 1) := by
      rw [Nat.mul_add]
      omega
    rw [sum]
    exact Nat.add_mul_mod_self_left _ _ _
  have here : place % among = place := Nat.mod_eq_of_lt h
  constructor
  · intro turn
    have both : first + j ≡ first + (place + (among - first % among)) [MOD among] := by
      refine Nat.ModEq.trans ?_ back.symm
      rw [Nat.ModEq, turn, here]
    exact Nat.ModEq.add_left_cancel' first both
  · intro same
    have turn := (same.add_left first).trans back
    rw [Nat.ModEq, here] at turn
    exact turn

theorem fair_turnsOf {among place : Nat} (h : place < among) (first turns : Nat) :
    Fair turns among (turnsOf first turns among place) := by
  have positive : 0 < among := by omega
  unfold turnsOf Fair
  simp only [turn_iff h]
  rw [Nat.count_modEq_card turns positive]
  split
  · next more =>
    rw [div_round_up positive (by omega)]
    exact .inr rfl
  · exact .inl rfl

/-- Endpoints that were picked go round a list of them, from the place of a turn on. -/
def GoesRound (first : Nat) (picked endpoints : List κ) : Prop :=
  ∀ j < picked.length, picked[j]? = endpoints[(first + j) % endpoints.length]?

/-- An endpoint that is listed once is picked as often as its place has its turn. -/
theorem count_eq_turnsOf [DecidableEq κ] {endpoints picked : List κ} {first place : Nat} {e : κ}
    (distinct : endpoints.Nodup) (he : endpoints[place]? = some e)
    (h : GoesRound first picked endpoints) :
    picked.count e = turnsOf first picked.length endpoints.length place := by
  have hplace : place < endpoints.length := (List.getElem?_eq_some_iff.mp he).1
  induction picked using List.reverseRecOn with
  | nil => rfl
  | append_singleton picked x ih =>
    have before : GoesRound first picked endpoints := by
      intro j hj
      rw [← List.getElem?_append_left hj]
      refine h j ?_
      rw [List.length_append]
      omega
    have last : some x = endpoints[(first + picked.length) % endpoints.length]? := by
      rw [← h picked.length (by simp), List.getElem?_concat_length]
    have turn : x = e ↔ (first + picked.length) % endpoints.length = place := by
      constructor
      · rintro rfl
        exact ((List.getElem?_inj hplace distinct).mp (he.trans last)).symm
      · intro same
        rw [same, he] at last
        exact Option.some.inj last
    rw [List.count_append, List.length_append, List.length_singleton, turnsOf_succ, ih before,
      List.count_singleton]
    simp only [beq_iff_eq, turn]

/-- Picks share the turns of a list of endpoints, from a turn on. -/
structure Shares [DecidableEq κ] (first : Nat) (picked endpoints : List κ) : Prop where
  /-- They go round the list, in its order. -/
  in_order : GoesRound first picked endpoints
  /-- Each place has its share of them. -/
  places : ∀ place < endpoints.length,
    Fair picked.length endpoints.length
      (turnsOf first picked.length endpoints.length place)
  /-- So does each endpoint, if no two are the same. -/
  each : endpoints.Nodup → ∀ e ∈ endpoints,
    Fair picked.length endpoints.length (picked.count e)

theorem GoesRound.shares [DecidableEq κ] {first : Nat} {picked endpoints : List κ}
    (h : GoesRound first picked endpoints) : Shares first picked endpoints := by
  refine ⟨h, fun _ hplace => fair_turnsOf hplace _ _, ?_⟩
  intro distinct e he
  obtain ⟨place, hplace⟩ := List.getElem?_of_mem he
  rw [count_eq_turnsOf distinct hplace h]
  exact fair_turnsOf (List.getElem?_eq_some_iff.mp hplace).1 _ _

namespace Pickers

/-! ## What holds after any events -/

/-- The picks that took an endpoint, in the order of their turns. -/
def successes (made : List (Nat × Except Failure κ)) : List (Nat × κ) :=
  made.filterMap fun m => m.2.toOption.map (m.1, ·)

theorem successes_ok (made : List (Nat × Except Failure κ)) (i : Nat) (e : κ) :
    successes (made ++ [(i, .ok e)]) = successes made ++ [(i, e)] := by
  unfold successes
  rw [List.filterMap_append]
  rfl

theorem successes_error (made : List (Nat × Except Failure κ)) (i : Nat) (f : Failure) :
    successes (made ++ [(i, .error f)]) = successes made := by
  unfold successes
  rw [List.filterMap_append]
  exact List.append_nil _

/-- What a pick came to is right for what it read. -/
def Found (endpoints : List κ) (picked : Except Failure κ) : Prop :=
  (endpoints = [] ∧ picked = .error Rotation.nothing) ∨ ∃ e ∈ endpoints, picked = .ok e

structure Kept (c : Pickers κ τ) : Prop where
  found : ∀ m ∈ c.made, ∃ endpoints, c.read[m.1]? = some endpoints ∧ Found endpoints m.2
  /-- Only picks that take an endpoint move the cursor. -/
  cursor : c.backends.rotation.cursor = (successes c.made).length % UInt64.size
  turn : ∀ j i e, (successes c.made)[j]? = some (i, e) → ∃ endpoints,
    c.read[i]? = some endpoints ∧ endpoints[j % UInt64.size % endpoints.length]? = some e

/-- Backends that nothing has been picked from. -/
def start (feed : Feed) (set : EndpointSet κ) (workshop : τ) : Pickers κ τ :=
  ⟨⟨feed, set, {}⟩, workshop, [], []⟩

theorem kept_start (feed : Feed) (set : EndpointSet κ) (workshop : τ) :
    Kept (start feed set workshop) where
  found := by simp [start]
  cursor := rfl
  turn := by simp [start, successes]

variable {factory : Factory τ κ} {c c' : Pickers κ τ}

theorem Begins.read_grows (h : Begins c c') : c.read <+: c'.read := by
  cases h with
  | broken set workshop unsettled => exact List.prefix_refl _
  | reads workshop settled same => exact List.prefix_append _ _

/-- What a pick reads is the set as it is then. -/
theorem Begins.reads_set (h : Begins c c') : c'.read = c.read ∨
    c'.backends.Settled ∧ c'.read = c.read ++ [c'.backends.set.endpoints] := by
  cases h with
  | broken set workshop unsettled => exact .inl rfl
  | reads workshop settled same => exact .inr ⟨settled, rfl⟩

theorem Takes.read_grows {i : Nat} (h : Takes i c c') : c.read <+: c'.read := by
  cases h <;> exact List.prefix_refl _

/-- What has been read stays. -/
theorem getElem?_read {read : List (List κ)} {i : Nat} {endpoints : List κ}
    (h : read[i]? = some endpoints) (more : List (List κ)) :
    (read ++ more)[i]? = some endpoints :=
  (List.getElem?_append_left (List.getElem?_eq_some_iff.mp h).1).trans h

theorem Kept.begins (k : Kept c) (h : Begins c c') : Kept c' := by
  cases h with
  | broken set workshop unsettled => exact ⟨k.found, k.cursor, k.turn⟩
  | reads workshop settled same =>
    refine ⟨?_, k.cursor, ?_⟩
    · intro m hm
      obtain ⟨endpoints, hread, found⟩ := k.found m hm
      exact ⟨endpoints, getElem?_read hread _, found⟩
    · intro j i e hj
      obtain ⟨endpoints, hread, here⟩ := k.turn j i e hj
      exact ⟨endpoints, getElem?_read hread _, here⟩

theorem Kept.takes {i : Nat} (k : Kept c) (h : Takes i c c') : Kept c' := by
  cases h with
  | idle => exact k
  | fails began =>
    refine ⟨?_, ?_, ?_⟩
    · intro m hm
      rcases List.mem_append.mp hm with hm | hm
      · exact k.found m hm
      · rw [List.mem_singleton.mp hm]
        exact ⟨[], began, .inl ⟨rfl, rfl⟩⟩
    · rw [successes_error]
      exact k.cursor
    · rw [successes_error]
      exact k.turn
  | @turn endpoints e began here =>
    refine ⟨?_, ?_, ?_⟩
    · intro m hm
      rcases List.mem_append.mp hm with hm | hm
      · exact k.found m hm
      · rw [List.mem_singleton.mp hm]
        exact ⟨endpoints, began, .inr ⟨e, List.mem_of_getElem? here, rfl⟩⟩
    · change (c.backends.rotation.cursor + 1) % UInt64.size = _
      rw [successes_ok, List.length_append, List.length_singleton, k.cursor, Nat.mod_add_mod]
    · intro j i' e' hj
      rw [successes_ok] at hj
      rcases Nat.lt_or_ge j (successes c.made).length with before | from_here
      · rw [List.getElem?_append_left before] at hj
        exact k.turn j i' e' hj
      · obtain rfl : j = (successes c.made).length := by
          have less := (List.getElem?_eq_some_iff.mp hj).1
          rw [List.length_append, List.length_singleton] at less
          omega
        rw [List.getElem?_concat_length] at hj
        cases hj
        rw [k.cursor] at here
        exact ⟨endpoints, began, here⟩

theorem Kept.step (k : Kept c) (e : Event) : Kept (c.step factory e) := by
  cases e with
  | publish instances => exact ⟨k.found, k.cursor, k.turn⟩
  | close => exact ⟨k.found, k.cursor, k.turn⟩
  | begin => exact k.begins (Pickers.begins factory c)
  | take i => exact k.takes (Pickers.takes i c)

theorem Kept.after (k : Kept c) (events : List Event) : Kept (c.after factory events) := by
  induction events generalizing c with
  | nil => exact k
  | cons e events ih => exact ih (k.step e)

/-- No pick is over that has not begun. -/
theorem Kept.not_over (k : Kept c) : c.read.length ∉ c.made.map Prod.fst := by
  intro ended
  obtain ⟨m, hm, h⟩ := List.mem_map.mp ended
  obtain ⟨endpoints, hread, -⟩ := k.found m hm
  have begun := (List.getElem?_eq_some_iff.mp hread).1
  omega

/-- Picks that read the same endpoints and have their turns one after another go round them. -/
theorem Kept.goes_round (k : Kept c) (few : (successes c.made).length ≤ UInt64.size)
    {before window after : List (Nat × κ)} {endpoints : List κ}
    (parts : successes c.made = before ++ window ++ after)
    (same : ∀ m ∈ window, c.read[m.1]? = some endpoints) :
    GoesRound before.length (window.map Prod.snd) endpoints := by
  intro j hj
  rw [List.length_map] at hj
  obtain ⟨⟨i, e⟩, hm⟩ : ∃ m, window[j]? = some m := ⟨_, List.getElem?_eq_getElem hj⟩
  have nth : (successes c.made)[before.length + j]? = some (i, e) := by
    rw [parts, List.append_assoc, List.getElem?_append_right (Nat.le_add_right _ _),
      Nat.add_sub_cancel_left, List.getElem?_append_left hj, hm]
  obtain ⟨endpoints', hread, here⟩ := k.turn _ _ _ nth
  obtain rfl : endpoints = endpoints' :=
    Option.some.inj ((same _ (List.mem_of_getElem? hm)).symm.trans hread)
  have early : before.length + j < UInt64.size := by
    rw [parts, List.length_append, List.length_append] at few
    omega
  rw [Nat.mod_eq_of_lt early] at here
  rw [List.getElem?_map, hm, here]
  rfl

/-! ## While nothing is published -/

/-- All picks from a number on have read the same endpoints, which the next will read too. -/
def Still (first : Nat) (c : Pickers κ τ) : Prop :=
  c.read.length = first ∨ c.backends.Settled ∧
    ∀ i, first ≤ i → i < c.read.length → c.read[i]? = some c.backends.set.endpoints

theorem Still.begins {first : Nat} (s : Still first c) (h : Begins c c') : Still first c' := by
  cases h with
  | broken set workshop unsettled => exact s.imp_right fun before => absurd before.1 unsettled
  | @reads set workshop settled same =>
    refine .inr ⟨settled, ?_⟩
    intro i hfirst hi
    simp only [List.length_append, List.length_singleton] at hi
    by_cases new : i = c.read.length
    · rw [new]
      exact List.getElem?_concat_length
    · rcases s with rfl | ⟨before, all⟩
      · omega
      · rw [same before]
        exact getElem?_read (all i hfirst (by omega)) _

theorem Still.takes {first i : Nat} (s : Still first c) (h : Takes i c c') : Still first c' := by
  cases h <;> exact s

theorem Still.step {first : Nat} (s : Still first c) {e : Event} (quiet : e.Quiet) :
    Still first (c.step factory e) := by
  cases e with
  | publish instances => exact absurd rfl (quiet instances)
  | close =>
    refine s.imp_right ?_
    rintro ⟨-, all⟩
    exact ⟨fun more => absurd more.1 Bool.false_ne_true, all⟩
  | begin => exact s.begins (Pickers.begins factory c)
  | take i => exact s.takes (Pickers.takes i c)

theorem Still.after {first : Nat} (s : Still first c) {events : List Event}
    (quiet : ∀ e ∈ events, e.Quiet) : Still first (c.after factory events) := by
  induction events generalizing c with
  | nil => exact s
  | cons e events ih =>
    rw [List.forall_mem_cons] at quiet
    exact ih (s.step quiet.1) quiet.2

/-! ## The laws -/

theorem read_grows (factory : Factory τ κ) (c : Pickers κ τ) (events : List Event) :
    c.read <+: (c.after factory events).read := by
  induction events generalizing c with
  | nil => exact List.prefix_refl _
  | cons e events ih =>
    refine List.IsPrefix.trans ?_ (ih (c.step factory e))
    cases e with
    | publish instances => exact List.prefix_refl _
    | close => exact List.prefix_refl _
    | begin => exact (Pickers.begins factory c).read_grows
    | take i => exact (Pickers.takes i c).read_grows

/-- What picks come to that begin and have their turns in any order, while the set changes. -/
structure TakeTurns [DecidableEq κ] (factory : Factory τ κ) (s : Pickers κ τ)
    (events : List Event) : Prop where
  /-- A pick reads the set that the latest publication has led to, unless the factory breaks
  off. -/
  reads : ∀ past, past ++ [.begin] <+: events →
    (s.after factory (past ++ [.begin])).read = (s.after factory past).read ∨
      (s.after factory (past ++ [.begin])).backends.Settled ∧
        (s.after factory (past ++ [.begin])).read = (s.after factory past).read ++
          [(s.after factory (past ++ [.begin])).backends.set.endpoints]
  /-- A pick takes one of the endpoints that it read, and fails exactly if there were none. -/
  found : ∀ m ∈ (s.after factory events).made, ∃ endpoints,
    (s.after factory events).read[m.1]? = some endpoints ∧ Found endpoints m.2
  /-- The cursor counts the picks that took one, and a pick that fails leaves it. -/
  cursor : (s.after factory events).backends.rotation.cursor =
    (successes (s.after factory events).made).length % UInt64.size
  /-- A pick between whose two steps nothing comes is as if it were one. -/
  alone : ∀ picked backends workshop notes,
    (Backends.pick factory).run
        ((s.after factory events).backends, (s.after factory events).workshop) =
      ⟨.ok picked, (backends, workshop), notes⟩ →
    ∃ endpoints, (s.after factory events).after factory
        [.begin, .take (s.after factory events).read.length] =
      { backends, workshop, read := (s.after factory events).read ++ [endpoints]
        made := (s.after factory events).made ++
          [((s.after factory events).read.length, picked)] }
  /-- Picks that begin while nothing is published read the same endpoints. -/
  still : ∀ past quiet, past ++ quiet <+: events → (∀ e ∈ quiet, e.Quiet) → ∃ endpoints,
    ∀ i, (s.after factory past).read.length ≤ i →
      i < (s.after factory (past ++ quiet)).read.length →
      (s.after factory events).read[i]? = some endpoints
  /-- Successful picks in a row that have read the same endpoints share the turns of them. -/
  shared : (s.after factory events).made.length < UInt64.size → ∀ before window later endpoints,
    successes (s.after factory events).made = before ++ window ++ later →
    (∀ m ∈ window, (s.after factory events).read[m.1]? = some endpoints) →
    Shares before.length (window.map Prod.snd) endpoints

/-- Picks at the same time come to what is right for what they read, whatever changes meanwhile,
and with fewer than 2⁶⁴ of them, those that read the same endpoints share their turns. -/
theorem picks_at_the_same_time_take_turns [DecidableEq κ] (factory : Factory τ κ) (feed : Feed)
    (set : EndpointSet κ) (workshop : τ) (events : List Event) :
    TakeTurns factory (start feed set workshop) events := by
  have kept : Kept ((start feed set workshop).after factory events) :=
    (kept_start feed set workshop).after events
  refine ⟨?_, kept.found, kept.cursor, ?_, ?_, ?_⟩
  · intro past _
    rw [after_snoc]
    exact (begins factory _).reads_set
  · intro picked backends workshop notes h
    exact take_begin kept.not_over h
  · rintro past quiet ⟨later, rfl⟩ silent
    generalize hc : (start feed set workshop).after factory past = c
    have still : Still c.read.length (c.after factory quiet) :=
      Still.after (.inl rfl) silent
    refine ⟨(c.after factory quiet).backends.set.endpoints, ?_⟩
    intro i hfirst hi
    rw [after_append, after_append, hc]
    rw [after_append, hc] at hi
    rcases still with none | ⟨-, all⟩
    · omega
    · obtain ⟨more, hmore⟩ := read_grows factory (c.after factory quiet) later
      rw [← hmore]
      exact getElem?_read (all i hfirst hi) more
  · intro few before window later endpoints parts same
    have fewer : (successes (after factory _ events).made).length ≤ UInt64.size :=
      Nat.le_trans (List.length_filterMap_le _ _) (Nat.le_of_lt few)
    exact (kept.goes_round fewer parts same).shares

/-- Three picks read two endpoints, and have their turns, in another order, when the set is empty
already and a fourth has failed for that. They still go round the two. -/
theorem three_picks_outlive_what_they_read :
    let factory : Factory Unit Nat := fun i => pure (.ok i.port)
    let set : EndpointSet Nat := { service := "sum", endpoints := [1, 2] }
    let events := [.begin, .begin, .begin, .publish [], .take 2, .begin, .take 3, .take 0, .take 1]
    let c := (start {} set ()).after factory events
    c.read = [[1, 2], [1, 2], [1, 2], []] ∧ c.backends.rotation.cursor = 3 ∧
      c.made = [(2, .ok 1), (3, .error Rotation.nothing), (0, .ok 2), (1, .ok 1)] ∧
      Shares 0 [1, 2, 1] [1, 2] := by
  intro factory set events c
  have read : c.read = [[1, 2], [1, 2], [1, 2], []] := by decide +kernel
  have made : c.made =
      [(2, .ok 1), (3, .error Rotation.nothing), (0, .ok 2), (1, .ok 1)] := by decide +kernel
  obtain ⟨-, -, cursor, -, -, shared⟩ := picks_at_the_same_time_take_turns factory {} set () events
  have there : (start {} set ()).after factory events = c := rfl
  rw [there] at cursor shared
  clear_value c
  have taken : successes c.made = [(2, 1), (0, 2), (1, 1)] := by
    rw [made]
    rfl
  have few : c.made.length < UInt64.size := by
    rw [made]
    decide
  rw [taken] at cursor
  refine ⟨read, cursor, made, shared few [] [(2, 1), (0, 2), (1, 1)] [] [1, 2] taken ?_⟩
  intro m hm
  rw [read]
  simp only [List.mem_cons, List.not_mem_nil, or_false] at hm
  rcases hm with rfl | rfl | rfl <;> rfl

end Pickers

end ServiceMesh
