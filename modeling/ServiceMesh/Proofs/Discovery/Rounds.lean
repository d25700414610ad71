-- A watch at work on a registry that may answer anything, at any time or never: with
-- which index it asks after each answer, how soon after a failure, what it has
-- published by then, and when it tells its readers.
import ServiceMesh.Proofs.Discovery.Following

namespace ServiceMesh

/-! ## Rounds -/

/-- A query and its answer. -/
structure Round where
  query : Query
  asked : Instant
  answer : RegistryAnswer
  answered : Instant

namespace Round

/-- The index that the next query waits for. -/
def next (r : Round) : Nat :=
  match r.answer with
  | .ok (_, told) => if r.query.waitIndex ≤ told then told else 0
  | .error _ => r.query.waitIndex

/-- The instant from which on the next query may be asked. -/
def mayAsk (r : Round) : Instant :=
  match r.answer with
  | .ok _ => r.answered
  | .error _ => r.answered + 1000

/-- What is published after a round. -/
def publish (before : List Instance) (r : Round) : List Instance :=
  match r.answer with
  | .ok (found, _) => Instance.sorted found
  | .error _ => before

/-- The index that a query waits for after some rounds; the first one does not wait. -/
def nextAfter (past : List Round) : Nat := (past.getLast?.map next).getD 0

def mayAskAfter (past : List Round) : Instant := (past.getLast?.map mayAsk).getD 0

/-- The list of the last answer that had one; nothing before. -/
def published (past : List Round) : List Instance := past.foldl publish []

theorem nextAfter_snoc (past : List Round) (r : Round) : nextAfter (past ++ [r]) = r.next := by
  simp [nextAfter]

theorem mayAskAfter_snoc (past : List Round) (r : Round) :
    mayAskAfter (past ++ [r]) = r.mayAsk := by
  simp [mayAskAfter]

theorem published_snoc (past : List Round) (r : Round) :
    published (past ++ [r]) = r.publish (published past) := List.foldl_append

/-- Rounds on one service, each query asked with the right index and not too soon. -/
inductive InTurn (service : String) : List Round → Prop
  | nil : InTurn service []
  | snoc {past : List Round} {r : Round} : InTurn service past →
      r.query = ⟨service, true, nextAfter past⟩ → mayAskAfter past ≤ r.asked →
      r.asked ≤ r.answered → InTurn service (past ++ [r])

end Round

/-! ## One step of a watch -/

/-- A watch as it was left, or ended there with its feed closed. -/
inductive Watch.Left (w : Watch) : Watch → Prop where
  | on : Left w w
  | ended : Left w { w with stage := .stopped, feed := w.feed.close }

theorem Watch.left_cancel (w : Watch) : w.Left w.cancel.1 := by
  unfold cancel
  split
  · exact .on
  · exact .ended

namespace Watching

variable {σ : Type} {s : Source σ} {w : Watching σ}

theorem left_ask (s : Source σ) (w : Watching σ) : w.watch.Left (ask s w).watch := by
  unfold ask
  split
  · exact .on
  · split
    · exact .on
    · exact w.watch.left_cancel

theorem now_ask (s : Source σ) (w : Watching σ) : (ask s w).now = w.now := by
  unfold ask
  split
  · rfl
  · split <;> rfl

/-- Nothing happens before it is due. -/
theorem step_early {limit : Instant} (h : ∀ t, due s w = some t → limit < t) :
    step s limit w = none := by
  unfold step
  cases hdue : due s w with
  | none => rfl
  | some t => exact if_pos (h t hdue)

/-- After its pause a watch asks. -/
theorem step_wakes {limit : Instant} {index : Nat} {wake : Instant}
    (hstage : w.watch.stage = .pausing index wake) (h : wake ≤ limit) :
    step s limit w = some
      (ask s { w with watch := { w.watch with stage := .asking index }, now := max w.now wake },
        []) := by
  have hdue : due s w = some wake := by simp only [due, hstage]
  have hq : w.watch.query? = none := by simp only [Watch.query?, hstage]
  have hwoken : w.watch.woken (max w.now wake) = { w.watch with stage := .asking index } := by
    simp only [Watch.woken, hstage, if_pos (Nat.le_max_right w.now wake)]
  unfold step
  simp only [hdue, if_neg (Nat.not_lt.mpr h), hq, hwoken]

/-- A watch that has heard the answer to its query. -/
def heard (s : Source σ) (q : Query) (t : Instant) (w : Watching σ) : Watching σ :=
  ⟨(w.watch.answered (s.answer q w.source).1 t).1, (s.answer q w.source).2, t⟩

/-- When the answer is due the watch hears it, and asks again at once if it has come to that. -/
theorem step_hears {limit t : Instant} {q : Query} (hq : w.watch.query? = some q)
    (hdue : s.due q w.now w.source = some t) (h : t ≤ limit) :
    ∃ notes, step s limit w = some (ask s (heard s q (max w.now t) w), notes) := by
  have due_eq : due s w = some t := by
    simp only [due, (Watch.query?_eq_some hq).1, hq, Option.bind_some, hdue]
  refine ⟨(w.watch.answered (s.answer q w.source).1 (max w.now t)).2, ?_⟩
  unfold step
  simp only [due_eq, if_neg (Nat.not_lt.mpr h), hq]
  split
  · rfl
  · rename_i hnone
    have quiet : (heard s q (max w.now t) w).watch.query? = none := by
      simpa [heard] using hnone
    unfold ask
    simp only [quiet]
    rfl

end Watching

/-! ## A watch and its diary -/

/-- A watch at work, and a diary of its rounds. -/
structure Diary (σ : Type) where
  work : Watching σ
  rounds : List Round := []
  /-- When the query in flight was asked. -/
  asked : Instant := 0

namespace Diary

variable {σ : Type}

inductive Event (σ : Type) where
  /-- The watch takes the step that is due by an instant; if none is, time passes. -/
  | step (limit : Instant)
  /-- Somebody else changes the registry. -/
  | meanwhile (change : σ → σ)
  | cancel

/-- A watch that has not asked yet, and who will answer it. -/
def fresh (service : String) (source : σ) (now : Instant) : Diary σ :=
  { work := ⟨{ service }, source, now⟩ }

/-- The round that ends with an answer to the query in flight. -/
def ended (s : Source σ) (d : Diary σ) (now : Instant) : List Round :=
  match d.work.watch.query? with
  | none => []
  | some q => [⟨q, d.asked, (s.answer q d.work.source).1, now⟩]

def turn (s : Source σ) (d : Diary σ) : Event σ → Diary σ
  | .step limit =>
    match d.work.step s limit with
    | none => { d with work := { d.work with now := max d.work.now limit } }
    | some (work, _) => ⟨work, d.rounds ++ d.ended s work.now, work.now⟩
  | .meanwhile change => { d with work := { d.work with source := change d.work.source } }
  | .cancel => { d with work := { d.work with watch := d.work.watch.cancel.1 } }

def run (s : Source σ) (d : Diary σ) (events : List (Event σ)) : Diary σ := events.foldl (turn s) d

def feed (d : Diary σ) : Feed := d.work.watch.feed

theorem run_snoc (s : Source σ) (d : Diary σ) (past : List (Event σ)) (e : Event σ) :
    d.run s (past ++ [e]) = (d.run s past).turn s e := List.foldl_append

/-- The watch that runs of itself is one whose steps are written down. -/
theorem exists_run (s : Source σ) (limit : Instant) (fuel : Nat) (d : Diary σ) :
    ∃ events, (d.run s events).work = ((Watching.run s limit fuel).run d.work).state := by
  induction fuel generalizing d with
  | zero => exact ⟨[], rfl⟩
  | succ fuel ih =>
    have hrun : (Watching.run s limit (fuel + 1)).run d.work = Act.run (do
        match Watching.step s limit (← Act.get) with
        | none => Act.modify fun w => { w with now := max w.now limit }
        | some (w, notes) =>
          Act.modify fun _ => w
          Act.note notes
          Watching.run s limit fuel) d.work := rfl
    rw [hrun, Act.run_bind_ok (Act.run_get d.work)]
    cases hstep : Watching.step s limit d.work with
    | none =>
      refine ⟨[.step limit], ?_⟩
      simp [run, turn, hstep]
    | some after =>
      obtain ⟨work, notes⟩ := after
      obtain ⟨events, hevents⟩ := ih (d.turn s (.step limit))
      refine ⟨.step limit :: events, ?_⟩
      have hwork : (d.turn s (.step limit)).work = work := by simp [turn, hstep]
      rw [hwork] at hevents
      simp only [Act.run_bind_ok (Act.run_modify _ _), Act.run_bind_ok (Act.run_note _ _)]
      exact hevents

/-! ## What one event does -/

section Turn

variable {s : Source σ} {d : Diary σ} {limit : Instant}

/-- Nothing in flight, and still to ask again. -/
def Pausing (d : Diary σ) : Prop := d.work.watch.query? = none ∧ d.work.watch.stage ≠ .stopped

/-- Only time passes. -/
def rest (d : Diary σ) (limit : Instant) : Diary σ :=
  { d with work := { d.work with now := max d.work.now limit } }

theorem turn_early (h : ∀ t, d.work.due s = some t → limit < t) :
    d.turn s (.step limit) = d.rest limit := by
  unfold turn
  simp only [Watching.step_early h]
  rfl

theorem turn_wakes {index : Nat} {wake : Instant}
    (hstage : d.work.watch.stage = .pausing index wake) (h : wake ≤ limit) :
    d.turn s (.step limit) =
      ⟨Watching.ask s ⟨{ d.work.watch with stage := .asking index }, d.work.source,
        max d.work.now wake⟩, d.rounds, max d.work.now wake⟩ := by
  have hq : d.work.watch.query? = none := by simp only [Watch.query?, hstage]
  unfold turn
  simp only [Watching.step_wakes hstage h, ended, hq, List.append_nil, Watching.now_ask]

theorem turn_hears {q : Query} {t : Instant} (hq : d.work.watch.query? = some q)
    (hdue : s.due q d.work.now d.work.source = some t) (h : t ≤ limit) :
    d.turn s (.step limit) =
      ⟨Watching.ask s (d.work.heard s q (max d.work.now t)),
        d.rounds ++ [⟨q, d.asked, (s.answer q d.work.source).1, max d.work.now t⟩],
        max d.work.now t⟩ := by
  obtain ⟨notes, hstep⟩ := Watching.step_hears hq hdue h
  unfold turn
  simp only [hstep, ended, hq, Watching.now_ask]
  rfl

/-- What an event makes of a diary. -/
inductive Moves (s : Source σ) (d : Diary σ) : Diary σ → Prop where
  /-- The watch has nothing to do, or is cancelled. -/
  | stays (work : Watching σ) (hw : d.work.watch.Left work.watch)
      (hnow : d.work.now ≤ work.now) : Moves s d { d with work }
  | wakes (work : Watching σ) (index : Nat) (wake : Instant)
      (hstage : d.work.watch.stage = .pausing index wake) (hwake : wake ≤ work.now)
      (hw : { d.work.watch with stage := .asking index }.Left work.watch) :
    Moves s d ⟨work, d.rounds, work.now⟩
  | hears (work : Watching σ) (q : Query) (hq : d.work.watch.query? = some q)
      (hnow : d.work.now ≤ work.now)
      (hw : (d.work.watch.answered (s.answer q d.work.source).1 work.now).1.Left work.watch) :
    Moves s d ⟨work, d.rounds ++ [⟨q, d.asked, (s.answer q d.work.source).1, work.now⟩], work.now⟩

theorem step_moves (s : Source σ) (d : Diary σ) (limit : Instant) :
    Moves s d (d.turn s (.step limit)) := by
  by_cases hearly : ∀ t, d.work.due s = some t → limit < t
  · rw [turn_early hearly]
    exact .stays _ .on (Nat.le_max_left _ _)
  · simp only [not_forall, Nat.not_lt] at hearly
    obtain ⟨t, hdue, hle⟩ := hearly
    cases hstage : d.work.watch.stage with
    | stopped => simp [Watching.due, hstage] at hdue
    | pausing index wake =>
      obtain rfl : wake = t := by simpa [Watching.due, hstage] using hdue
      have left := Watching.left_ask s
        ⟨{ d.work.watch with stage := .asking index }, d.work.source, max d.work.now wake⟩
      have now : (Watching.ask s ⟨{ d.work.watch with stage := .asking index }, d.work.source,
          max d.work.now wake⟩).now = max d.work.now wake := Watching.now_ask s _
      rw [turn_wakes hstage hle]
      generalize Watching.ask s _ = work at left now ⊢
      have awake : wake ≤ work.now := by
        rw [now]
        exact Nat.le_max_right _ _
      rw [← now]
      exact .wakes work index wake hstage awake left
    | asking index =>
      obtain ⟨q, hq⟩ : ∃ q, d.work.watch.query? = some q := by
        unfold Watch.query?
        rw [hstage]
        exact ⟨_, rfl⟩
      have hdue' : s.due q d.work.now d.work.source = some t := by
        simpa [Watching.due, hstage, hq] using hdue
      have left := Watching.left_ask s (d.work.heard s q (max d.work.now t))
      have now : (Watching.ask s (d.work.heard s q (max d.work.now t))).now =
          max d.work.now t := Watching.now_ask s _
      rw [turn_hears hq hdue' hle]
      generalize Watching.ask s (d.work.heard s q (max d.work.now t)) = work at left now
      have later : d.work.now ≤ work.now := by
        rw [now]
        exact Nat.le_max_left _ _
      simp only [Watching.heard] at left
      rw [← now] at left ⊢
      exact .hears work q hq later left

theorem turn_moves (s : Source σ) (d : Diary σ) (e : Event σ) : Moves s d (d.turn s e) := by
  cases e with
  | step limit => exact step_moves s d limit
  | meanwhile change => exact .stays _ .on (Nat.le_refl _)
  | cancel => exact .stays _ d.work.watch.left_cancel (Nat.le_refl _)

end Turn

/-- After a failure the same is asked again, a second later. -/
theorem answered_error {w : Watch} {asked : Nat} (h : w.stage = .asking asked) (f : Failure)
    (now : Instant) :
    (w.answered (.error f) now).1 = { w with stage := .pausing asked (now + 1000) } := by
  unfold Watch.answered
  rw [h]
  rfl

/-! ## What a watch has done -/

/-- What a watch has done is what its diary says, and what it does next is in its turn. -/
structure Kept (service : String) (d : Diary σ) : Prop where
  rounds : Round.InTurn service d.rounds
  named : d.work.watch.service = service
  published : d.feed.instances = Round.published d.rounds
  asking : ∀ index, d.work.watch.stage = .asking index → index = Round.nextAfter d.rounds ∧
    Round.mayAskAfter d.rounds ≤ d.asked ∧ d.asked ≤ d.work.now
  pausing : ∀ index wake, d.work.watch.stage = .pausing index wake →
    index = Round.nextAfter d.rounds ∧ wake = Round.mayAskAfter d.rounds

theorem kept_fresh (service : String) (source : σ) (now : Instant) :
    Kept service (fresh service source now) where
  rounds := .nil
  named := rfl
  published := rfl
  asking := by
    intro index h
    cases h
  pausing := by
    intro index wake h
    cases h
    exact ⟨rfl, rfl⟩

theorem Kept.left {service : String} {d : Diary σ} (k : Kept service d) {work : Watching σ}
    (hw : d.work.watch.Left work.watch) (hnow : d.work.now ≤ work.now) :
    Kept service { d with work } := by
  obtain ⟨watch, source, now⟩ := work
  simp only at hw hnow
  cases hw with
  | on =>
    refine ⟨k.rounds, k.named, k.published, ?_, k.pausing⟩
    intro index h
    obtain ⟨hnext, hmay, hsince⟩ := k.asking index h
    exact ⟨hnext, hmay, Nat.le_trans hsince hnow⟩
  | ended =>
    refine ⟨k.rounds, k.named, k.published, ?_, ?_⟩
    · intro index h
      cases h
    · intro index wake h
      cases h

theorem Kept.wakes {service : String} {d : Diary σ} (k : Kept service d) {index : Nat}
    {wake now : Instant} (hstage : d.work.watch.stage = .pausing index wake) (hwake : wake ≤ now)
    (source : σ) :
    Kept service
      ⟨⟨{ d.work.watch with stage := .asking index }, source, now⟩, d.rounds, now⟩ := by
  obtain ⟨hnext, hmay⟩ := k.pausing index wake hstage
  refine ⟨k.rounds, k.named, k.published, ?_, ?_⟩
  · intro asked h
    cases h
    exact ⟨hnext, hmay ▸ hwake, Nat.le_refl _⟩
  · intro asked wake' h
    cases h

/-- A round that ends is the next one. -/
theorem Kept.hears {service : String} {d : Diary σ} (k : Kept service d) {q : Query}
    (hq : d.work.watch.query? = some q) {now : Instant} (hnow : d.work.now ≤ now)
    (answer : RegistryAnswer) (source : σ) :
    Kept service ⟨⟨(d.work.watch.answered answer now).1, source, now⟩,
      d.rounds ++ [⟨q, d.asked, answer, now⟩], now⟩ := by
  obtain ⟨hstage, hquery⟩ := Watch.query?_eq_some hq
  obtain ⟨hnext, hmay, hsince⟩ := k.asking _ hstage
  have hrounds : Round.InTurn service (d.rounds ++ [⟨q, d.asked, answer, now⟩]) := by
    refine .snoc k.rounds ?_ hmay (Nat.le_trans hsince hnow)
    rw [hquery, k.named, hnext]
  cases answer with
  | error f =>
    rw [answered_error hstage]
    refine ⟨hrounds, k.named, ?_, ?_, ?_⟩
    · rw [Round.published_snoc]
      exact k.published
    · intro index h
      cases h
    · intro index wake h
      cases h
      rw [Round.nextAfter_snoc, Round.mayAskAfter_snoc]
      exact ⟨rfl, rfl⟩
  | ok listed =>
    obtain ⟨found, told⟩ := listed
    obtain ⟨feed', hfeed, hlist, -⟩ := Watch.answered_ok hstage found told now
    rw [hfeed]
    refine ⟨hrounds, k.named, ?_, ?_, ?_⟩
    · rw [Round.published_snoc]
      exact hlist
    · intro index h
      cases h
      rw [Round.nextAfter_snoc, Round.mayAskAfter_snoc]
      refine ⟨?_, Nat.le_refl _, Nat.le_refl _⟩
      simp only [Watch.nextIndex, Round.next]
      split <;> split <;> omega
    · intro index wake h
      cases h

theorem kept_turn {s : Source σ} {service : String} {d : Diary σ} (k : Kept service d)
    (e : Event σ) : Kept service (d.turn s e) := by
  have moves := turn_moves s d e
  generalize d.turn s e = after at moves
  cases moves with
  | stays work hw hnow => exact k.left hw hnow
  | wakes work index wake hstage hwake hw =>
    exact (k.wakes hstage hwake work.source).left hw (Nat.le_refl _)
  | hears work q hq hnow hw =>
    exact (k.hears hq hnow _ work.source).left hw (Nat.le_refl _)

theorem kept_run (s : Source σ) {service : String} {d : Diary σ} (k : Kept service d)
    (events : List (Event σ)) : Kept service (d.run s events) := by
  induction events using List.reverseRecOn with
  | nil => exact k
  | append_singleton past e ih =>
    rw [run_snoc]
    exact kept_turn ih e

/-! ## When readers are told -/

/-- Readers are told of a list that differs from the one before, and of nothing else. -/
structure Told (before after : Feed) : Prop where
  same : after.instances = before.instances → after.version = before.version
  news : after.instances ≠ before.instances → after.version = before.version + 1

theorem told_same {before after : Feed} (hi : after.instances = before.instances)
    (hv : after.version = before.version) : Told before after :=
  ⟨fun _ => hv, fun hne => absurd hi hne⟩

theorem Told.left {before : Feed} {w w' : Watch} (h : Told before w.feed) (hw : w.Left w') :
    Told before w'.feed := by
  cases hw with
  | on => exact h
  | ended => exact ⟨h.same, h.news⟩

theorem told_answered {w : Watch} {asked : Nat} (h : w.stage = .asking asked)
    (answer : RegistryAnswer) (now : Instant) : Told w.feed (w.answered answer now).1.feed := by
  cases answer with
  | error f =>
    rw [answered_error h]
    exact told_same rfl rfl
  | ok listed =>
    obtain ⟨found, told⟩ := listed
    unfold Watch.answered
    rw [h]
    simp only
    by_cases hsame : Instance.sorted found = w.feed.instances
    · rw [if_pos hsame]
      exact told_same rfl rfl
    · rw [if_neg hsame]
      refine ⟨?_, fun _ => rfl⟩
      intro heq
      exact absurd heq hsame

theorem told_turn (s : Source σ) (d : Diary σ) (e : Event σ) : Told d.feed (d.turn s e).feed := by
  have moves := turn_moves s d e
  generalize d.turn s e = after at moves
  cases moves with
  | stays work hw hnow => exact (told_same rfl rfl).left hw
  | wakes work index wake hstage hwake hw =>
    have same : Told d.feed { d.work.watch with stage := .asking index }.feed :=
      told_same rfl rfl
    exact same.left hw
  | hears work q hq hnow hw =>
    exact (told_answered (Watch.query?_eq_some hq).1 _ _).left hw

/-! ## How a watch goes on -/

section Progress

variable {s : Source σ} {service : String} {d : Diary σ}

/-- What comes of a query that is asked at an instant: it is in flight, or the source breaks off
over it and the watch ends. -/
inductive Asks (s : Source σ) (q : Query) (t : Instant) (source : σ) (after : Diary σ) : Prop where
  | in_flight (h : s.ask q t source = .ok after.work.source)
      (hq : after.work.watch.query? = some q) (hnow : after.work.now = t)
      (hasked : after.asked = t)
  | broken_off (c : Crash) (h : s.ask q t source = .error c)
      (hstage : after.work.watch.stage = .stopped)

theorem asks_of_query {w : Watch} {q : Query} (hq : w.query? = some q) (source : σ) (t : Instant)
    (rounds : List Round) : Asks s q t source ⟨Watching.ask s ⟨w, source, t⟩, rounds, t⟩ := by
  unfold Watching.ask
  simp only [hq]
  cases h : s.ask q t source with
  | ok source => exact .in_flight h hq rfl rfl
  | error c =>
    refine .broken_off c h ?_
    simp only [Watch.cancel, (Watch.query?_eq_some hq).1]

/-- What comes of the answer to a query at an instant. -/
structure Hears (s : Source σ) (service : String) (q : Query) (t : Instant) (d after : Diary σ) :
    Prop where
  round : after.rounds = d.rounds ++ [⟨q, d.asked, (s.answer q d.work.source).1, t⟩]
  /-- When it has heard of instances, the watch asks again at once. -/
  asks_on : ∀ listed, (s.answer q d.work.source).1 = .ok listed →
    Asks s ⟨service, true, Round.nextAfter after.rounds⟩ t (s.answer q d.work.source).2 after
  /-- When it has heard of a failure, it is still to ask again. -/
  pauses : ∀ f, (s.answer q d.work.source).1 = .error f →
    after.Pausing ∧ after.work.now = t ∧ after.work.source = (s.answer q d.work.source).2

theorem Kept.of_pausing (k : Kept service d) (h : d.Pausing) :
    d.work.watch.stage =
      .pausing (Round.nextAfter d.rounds) (Round.mayAskAfter d.rounds) := by
  obtain ⟨hquery, hstage⟩ := h
  cases hs : d.work.watch.stage with
  | asking index =>
    unfold Watch.query? at hquery
    rw [hs] at hquery
    cases hquery
  | stopped => exact absurd hs hstage
  | pausing index wake =>
    obtain ⟨hindex, hwake⟩ := k.pausing index wake hs
    rw [hindex, hwake]

theorem Kept.patient (k : Kept service d) (h : d.Pausing) {limit : Instant}
    (hlimit : limit < Round.mayAskAfter d.rounds) : d.turn s (.step limit) = d.rest limit := by
  refine turn_early ?_
  intro t hdue
  unfold Watching.due at hdue
  rw [k.of_pausing h] at hdue
  cases hdue
  exact hlimit

theorem Kept.asks (k : Kept service d) (h : d.Pausing) {limit : Instant}
    (hlimit : Round.mayAskAfter d.rounds ≤ limit) :
    (d.turn s (.step limit)).rounds = d.rounds ∧
      Asks s ⟨service, true, Round.nextAfter d.rounds⟩
        (max d.work.now (Round.mayAskAfter d.rounds)) d.work.source (d.turn s (.step limit)) := by
  rw [turn_wakes (k.of_pausing h) hlimit]
  refine ⟨rfl, asks_of_query ?_ _ _ d.rounds⟩
  unfold Watch.query?
  rw [k.named]

theorem listens {q : Query} (hq : d.work.watch.query? = some q) {limit : Instant}
    (h : ∀ t, s.due q d.work.now d.work.source = some t → limit < t) :
    d.turn s (.step limit) = d.rest limit := by
  refine turn_early ?_
  intro t hdue
  refine h t ?_
  simpa [Watching.due, (Watch.query?_eq_some hq).1, hq] using hdue

theorem Kept.hears_out (k : Kept service d) {q : Query} (hq : d.work.watch.query? = some q)
    {limit t : Instant} (hdue : s.due q d.work.now d.work.source = some t) (h : t ≤ limit) :
    Hears s service q (max d.work.now t) d (d.turn s (.step limit)) := by
  have next := k.hears hq (Nat.le_max_left d.work.now t) (s.answer q d.work.source).1
    (s.answer q d.work.source).2
  have hstage := (Watch.query?_eq_some hq).1
  rw [turn_hears hq hdue h]
  refine ⟨rfl, ?_, ?_⟩
  · rintro ⟨found, told⟩ hanswer
    obtain ⟨feed, hanswered, -⟩ :=
      Watch.answered_ok hstage found told (max d.work.now t)
    have asking := next.asking
    have named := next.named
    simp only [hanswer, hanswered] at asking named
    have hnext : (d.work.heard s q (max d.work.now t)).watch.query? = some ⟨service, true,
        Round.nextAfter
          (d.rounds ++ [⟨q, d.asked, (s.answer q d.work.source).1, max d.work.now t⟩])⟩ := by
      simp only [Watching.heard, hanswer, hanswered, Watch.query?, named]
      rw [← (asking _ rfl).1]
    exact asks_of_query hnext _ _ _
  · intro f hanswer
    have hpausing : (d.work.heard s q (max d.work.now t)).watch =
        { d.work.watch with stage := .pausing q.waitIndex (max d.work.now t + 1000) } := by
      simp only [Watching.heard, hanswer]
      exact answered_error hstage f _
    have none : (d.work.heard s q (max d.work.now t)).watch.query? = none := by
      rw [hpausing]
      rfl
    have same : Watching.ask s (d.work.heard s q (max d.work.now t)) =
        d.work.heard s q (max d.work.now t) := by
      unfold Watching.ask
      simp only [none]
    rw [same]
    refine ⟨⟨none, ?_⟩, rfl, rfl⟩
    rw [hpausing]
    simp

end Progress

/-! ## The law -/

theorem published_in_order (past : List Round) :
    (Round.published past).Pairwise fun i j => i.id ≤ j.id := by
  induction past using List.reverseRecOn with
  | nil => exact List.Pairwise.nil
  | append_singleton past r ih =>
    rw [Round.published_snoc]
    unfold Round.publish
    split
    · exact Instance.sorted_pairwise _
    · exact ih

/-- What a watch on a service owes, whatever its registry has answered so far. -/
structure Dutiful (s : Source σ) (service : String) (d : Diary σ) : Prop where
  /-- Every query so far waited for the right index and was not asked too soon. -/
  rounds : Round.InTurn service d.rounds
  /-- So does the one in flight. -/
  in_flight : ∀ q, d.work.watch.query? = some q →
    q = ⟨service, true, Round.nextAfter d.rounds⟩ ∧ Round.mayAskAfter d.rounds ≤ d.asked
  /-- With no query in flight, the next one is not asked before its time. -/
  patient : ∀ limit, d.Pausing → limit < Round.mayAskAfter d.rounds →
    d.turn s (.step limit) = d.rest limit
  /-- When its time has come, it is asked; and so is the first. -/
  asks : ∀ limit, d.Pausing → Round.mayAskAfter d.rounds ≤ limit →
    (d.turn s (.step limit)).rounds = d.rounds ∧
      Asks s ⟨service, true, Round.nextAfter d.rounds⟩
        (max d.work.now (Round.mayAskAfter d.rounds)) d.work.source (d.turn s (.step limit))
  /-- The answer to a query in flight is waited for, and heard when it comes. -/
  listens : ∀ limit q, d.work.watch.query? = some q →
    (∀ t, s.due q d.work.now d.work.source = some t → limit < t) →
    d.turn s (.step limit) = d.rest limit
  hears : ∀ limit q t, d.work.watch.query? = some q →
    s.due q d.work.now d.work.source = some t → t ≤ limit →
    Hears s service q (max d.work.now t) d (d.turn s (.step limit))
  /-- Left to itself until some instant, the watch takes steps of this kind. -/
  alone : ∀ limit fuel,
    ∃ steps, (d.run s steps).work = ((Watching.run s limit fuel).run d.work).state
  /-- The list of the last answer that had one is published, in the order of the ids. -/
  published : d.feed.instances = Round.published d.rounds
  in_order : d.feed.instances.Pairwise fun i j => i.id ≤ j.id
  /-- Readers are told of every change of the list, and of nothing else. -/
  told : ∀ e, Told d.feed (d.turn s e).feed

theorem dutiful_of_kept {service : String} {d : Diary σ} (k : Kept service d) (s : Source σ) :
    Dutiful s service d where
  rounds := k.rounds
  in_flight := by
    intro q hq
    obtain ⟨hstage, hquery⟩ := Watch.query?_eq_some hq
    obtain ⟨hnext, hmay, -⟩ := k.asking _ hstage
    rw [hquery, k.named, hnext]
    exact ⟨rfl, hmay⟩
  patient := fun _ h hlimit => k.patient h hlimit
  asks := fun _ h hlimit => k.asks h hlimit
  listens := fun _ _ hq h => listens hq h
  hears := fun _ _ _ hq hdue h => k.hears_out hq hdue h
  alone := fun limit fuel => exists_run s limit fuel d
  published := k.published
  in_order := by
    rw [k.published]
    exact published_in_order _
  told := told_turn s d

/-- A source that breaks off over some query. -/
def BreaksOff (s : Source σ) : Prop := ∃ q t source c, s.ask q t source = .error c

theorem Asks.stopped {s : Source σ} {q : Query} {t : Instant} {source : σ} {after : Diary σ}
    (h : Asks s q t source after) (hstage : after.work.watch.stage = .stopped) : BreaksOff s := by
  cases h with
  | in_flight h hq hnow hasked =>
    have asking := (Watch.query?_eq_some hq).1
    rw [hstage] at asking
    cases asking
  | broken_off c h _ => exact ⟨q, t, source, c, h⟩

theorem Dutiful.lives_on {s : Source σ} {service : String} {d : Diary σ}
    (k : Dutiful s service d) (hon : d.work.watch.stage ≠ .stopped) {limit : Instant}
    (hstage : (d.turn s (.step limit)).work.watch.stage = .stopped) : BreaksOff s := by
  cases hquery : d.work.watch.query? with
  | none =>
    rcases Nat.lt_or_ge limit (Round.mayAskAfter d.rounds) with h | h
    · rw [k.patient limit ⟨hquery, hon⟩ h] at hstage
      exact absurd hstage hon
    · exact (k.asks limit ⟨hquery, hon⟩ h).2.stopped hstage
  | some q =>
    by_cases hearly : ∀ t, s.due q d.work.now d.work.source = some t → limit < t
    · rw [k.listens limit q hquery hearly] at hstage
      exact absurd hstage hon
    · simp only [not_forall, Nat.not_lt] at hearly
      obtain ⟨t, hdue, hle⟩ := hearly
      have hears := k.hears limit q t hquery hdue hle
      cases hanswer : (s.answer q d.work.source).1 with
      | ok listed => exact (hears.asks_on listed hanswer).stopped hstage
      | error f => exact absurd hstage (hears.pauses f hanswer).1.2

/-- Nothing but a cancellation or its source ends a watch. -/
theorem stopped_run {s : Source σ} {service : String} {d : Diary σ} (k : Kept service d)
    (hon : d.work.watch.stage ≠ .stopped) (events : List (Event σ))
    (h : (d.run s events).work.watch.stage = .stopped) : .cancel ∈ events ∨ BreaksOff s := by
  induction events using List.reverseRecOn with
  | nil => exact absurd h hon
  | append_singleton past e ih =>
    rw [run_snoc] at h
    by_cases before : (d.run s past).work.watch.stage = .stopped
    · exact (ih before).imp_left (List.mem_append_left _)
    · cases e with
      | cancel => exact .inl (by simp)
      | meanwhile change => exact absurd h before
      | step limit => exact .inr ((dutiful_of_kept (kept_run s k past) s).lives_on before h)

/-- A watch asks at once, goes from answer to answer with the index it was told, pauses after
failures, and publishes each list that differs from the one before. It ends only when it is
cancelled, or its source breaks off. -/
theorem a_watch_goes_by_what_it_was_told (s : Source σ) (service : String) (source : σ)
    (now : Instant) (events : List (Event σ)) :
    Dutiful s service ((fresh service source now).run s events) ∧
      (((fresh service source now).run s events).work.watch.stage = .stopped →
        .cancel ∈ events ∨ BreaksOff s) :=
  ⟨dutiful_of_kept (kept_run s (kept_fresh service source now) events) s,
    stopped_run (kept_fresh service source now) (by simp [fresh]) events⟩

/-- A source that fails and then tells of an index, each after five milliseconds. -/
def recovering : ScriptedSource := ⟨[(5, .error (.badGateway "down")), (5, .ok ([], 7))], [], 0⟩

def recovery : List (Event ScriptedSource) :=
  [.step 0, .step 5, .step 1004, .step 1005, .step 1010]

/-- It is asked at once, again a second after the failure, and then with the index. -/
theorem a_failure_is_asked_again :
    let d := (fresh "sum" recovering 0).run ScriptedSource.source recovery
    d.work.source.asked = [⟨"sum", true, 0⟩, ⟨"sum", true, 0⟩, ⟨"sum", true, 7⟩] ∧
      d.rounds.map (fun r => (r.asked, r.answered)) = [(0, 5), (1005, 1010)] ∧ d.asked = 1010 ∧
      Dutiful ScriptedSource.source "sum" d ∧ d.work.watch.stage ≠ .stopped := by
  intro d
  have asked : d.work.source.asked =
      [⟨"sum", true, 0⟩, ⟨"sum", true, 0⟩, ⟨"sum", true, 7⟩] := by decide +kernel
  have rounds : d.rounds.map (fun r => (r.asked, r.answered)) = [(0, 5), (1005, 1010)] := by
    decide +kernel
  have now : d.asked = 1010 := by decide +kernel
  obtain ⟨dutiful, ends⟩ :=
    a_watch_goes_by_what_it_was_told ScriptedSource.source "sum" recovering 0 recovery
  refine ⟨asked, rounds, now, dutiful, ?_⟩
  intro hstage
  rcases ends hstage with hcancel | ⟨q, t, source, c, h⟩
  · simp [recovery] at hcancel
  · cases h

end Diary

end ServiceMesh
