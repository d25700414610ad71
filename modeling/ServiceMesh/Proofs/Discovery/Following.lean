-- A watch in step with its registry: whatever it has read at an index is what
-- the registry holds, as long as the index has not moved and no change is half
-- made. So a watch that waits for the next index has published what is there.
import ServiceMesh.Proofs.Discovery.Pipeline
import ServiceMesh.Proofs.Registry.Entries

namespace ServiceMesh

/-! ## Answers -/

namespace Watch

theorem nextIndex_le (asked told : Nat) : nextIndex asked told ≤ told := by
  unfold nextIndex
  split <;> omega

theorem query?_eq_some {w : Watch} {q : Query} (h : w.query? = some q) :
    w.stage = .asking q.waitIndex ∧ q = ⟨w.service, true, q.waitIndex⟩ := by
  unfold query? at h
  split at h
  · rename_i index hs
    cases h
    exact ⟨hs, rfl⟩
  · cases h

/-- An index to wait for that is not 0 is the one told. -/
theorem nextIndex_eq {asked told index : Nat} (h : nextIndex asked told = index)
    (hpos : 0 < index) : told = index := by
  unfold nextIndex at h
  split at h <;> omega

/-- After an answer, the watch asks again, and its feed holds the answer in order. -/
theorem answered_ok {w : Watch} {asked : Nat} (h : w.stage = .asking asked)
    (found : List Instance) (told : Nat) (now : Instant) :
    ∃ feed, (w.answered (.ok (found, told)) now).1 =
        { w with stage := .asking (nextIndex asked told), feed } ∧
      feed.instances = Instance.sorted found ∧
      (feed = w.feed ∨ feed = w.feed.publish (Instance.sorted found)) := by
  obtain ⟨service, stage, feed⟩ := w
  simp only at h
  subst h
  unfold answered
  simp only
  by_cases hsame : Instance.sorted found = feed.instances
  · rw [if_pos hsame]
    exact ⟨feed, rfl, hsame.symm, Or.inl rfl⟩
  · rw [if_neg hsame]
    exact ⟨feed.publish (Instance.sorted found), rfl, rfl, Or.inr rfl⟩

end Watch

namespace Pipeline

variable {κ τ : Type}

/-! ## The watch in step -/

/-- What keeps the watch in step with the registry. -/
structure Following (t : Pipeline κ τ) : Prop where
  ids : t.registry.ids.Nodup
  index_pos : 0 < t.registry.index
  /-- The registry in memory never fails, so only the first query comes after a pause. -/
  pausing_zero : ∀ asked wake, t.watch.stage = .pausing asked wake → asked = 0
  asked_le : ∀ asked, t.watch.stage = .asking asked → asked ≤ t.registry.index
  told_le : ∀ index, t.query.told? = some index → index ≤ t.registry.index
  distinct : t.query.Distinct
  faithful : t.writing = 0 → ∀ q, t.watch.query? = some q → t.query.Faithful q t.registry
  published : t.writing = 0 → t.watch.stage = .asking t.registry.index →
    t.watch.feed.instances = t.registry.snapshot ⟨t.watch.service, true, t.registry.index⟩
  feed_distinct : (t.watch.feed.instances.map (·.id)).Nodup
  feed_open : t.watch.stage ≠ .stopped → t.watch.feed.isOpen = true

theorem following_fresh (service : String) (wait : Nat) (workshop : τ) :
    Following (fresh service wait workshop : Pipeline κ τ) where
  ids := List.nodup_nil
  index_pos := Nat.one_pos
  pausing_zero := by
    intro asked wake h
    cases h
    rfl
  asked_le := by
    intro asked h
    cases h
  told_le := by
    intro index h
    cases h
  distinct := trivial
  faithful := fun _ _ _ => trivial
  published := by
    intro _ h
    cases h
  feed_distinct := List.nodup_nil
  feed_open := fun _ => rfl

/-- When the index moves on, what was read before is out of date, and nobody takes it for
anything else. -/
theorem following_moved {t : Pipeline κ τ} (f : Following t) {r : Registry} (hids : r.ids.Nodup)
    (hindex : r.index = t.registry.index + 1) (writing : Nat) :
    Following { t with registry := r, writing } where
  ids := hids
  index_pos := by
    simp only [hindex]
    omega
  pausing_zero := f.pausing_zero
  asked_le := by
    intro asked h
    have := f.asked_le asked h
    simp only [hindex]
    omega
  told_le := by
    intro index h
    have := f.told_le index h
    simp only [hindex]
    omega
  distinct := f.distinct
  faithful := by
    intro _ q _
    refine QueryStage.faithful_of_moved ?_
    intro index h
    have := f.told_le index h
    simp only [hindex]
    omega
  published := by
    intro _ h
    have := f.asked_le _ h
    simp only [hindex] at this
    omega
  feed_distinct := f.feed_distinct
  feed_open := f.feed_open

theorem index_write (r : Registry) (m : Mutation) : (r.write m).index = r.index := by
  cases m <;> rfl

theorem following_change {t : Pipeline κ τ} (f : Following t) (m : Mutation) :
    Following { t with registry := t.registry.apply m } := by
  refine following_moved f (r := t.registry.apply m) (Registry.ids_write_nodup f.ids m) ?_ t.writing
  show (t.registry.write m).index + 1 = t.registry.index + 1
  rw [index_write]

/-- A change that is half made moves nothing, but what is read is not to be relied on. -/
theorem following_write {t : Pipeline κ τ} (f : Following t) (m : Mutation) :
    Following { t with registry := t.registry.write m, writing := t.writing + 1 } where
  ids := Registry.ids_write_nodup f.ids m
  index_pos := by
    rw [index_write]
    exact f.index_pos
  pausing_zero := f.pausing_zero
  asked_le := by
    rw [index_write]
    exact f.asked_le
  told_le := by
    rw [index_write]
    exact f.told_le
  distinct := f.distinct
  faithful := fun h => absurd h (Nat.succ_ne_zero _)
  published := fun h => absurd h (Nat.succ_ne_zero _)
  feed_distinct := f.feed_distinct
  feed_open := f.feed_open

theorem following_settle {t : Pipeline κ τ} (f : Following t) : Following t.settle := by
  unfold settle
  by_cases h : t.writing = 0
  · rw [if_pos h]
    exact f
  · rw [if_neg h]
    exact following_moved f (r := t.registry.bump) f.ids rfl _

/-! ## Steps of the watch -/

/-- All that a step of the watch can be: it wakes up, an answer comes in, or its query goes on. -/
theorem watchStep_cases (t : Pipeline κ τ) :
    (t.watch.query? = none ∧ t.watchStep = t.goOn (t.watch.woken t.now)) ∨
      (∃ q instances index, t.watch.query? = some q ∧ t.query = .answered instances index ∧
        t.watchStep = t.goOn (t.watch.answered (.ok (instances, index)) t.now).1) ∨
      ∃ q, t.watch.query? = some q ∧
        t.watchStep = { t with query := t.query.step q t.registry t.now } := by
  unfold watchStep
  cases hq : t.watch.query? with
  | none => exact Or.inl ⟨rfl, rfl⟩
  | some q =>
    right
    cases hquery : t.query with
    | answered instances index => exact Or.inl ⟨q, instances, index, rfl, rfl, rfl⟩
    | waiting deadline => exact Or.inr ⟨q, rfl, rfl⟩
    | indexing => exact Or.inr ⟨q, rfl, rfl⟩
    | reading index pending found => exact Or.inr ⟨q, rfl, rfl⟩
    | brokenOff c => exact Or.inr ⟨q, rfl, rfl⟩

/-- A watch that goes on has a query that has read nothing yet, or it has ended with its feed
closed. -/
theorem goOn_cases (t : Pipeline κ τ) (w : Watch) :
    (∃ query, t.goOn w = { t with watch := w, query } ∧ query.told? = none ∧ query.Distinct ∧
        ∀ q r, query.Faithful q r) ∨
      t.goOn w =
        { t with watch := { w with stage := .stopped, feed := w.feed.close }, query := .indexing } := by
  unfold goOn
  cases hq : w.query? with
  | none => exact Or.inl ⟨.indexing, rfl, rfl, trivial, fun _ _ => trivial⟩
  | some q =>
    simp only
    have started := QueryStage.start_started q t.now t.wait
    generalize QueryStage.start q t.now t.wait = stage at started
    cases started with
    | at_once hw => exact Or.inl ⟨.indexing, rfl, rfl, trivial, fun _ _ => trivial⟩
    | waits hw hrange => exact Or.inl ⟨_, rfl, rfl, trivial, fun _ _ => trivial⟩
    | breaks_off hw hout =>
      refine Or.inr ?_
      have hstage := (Watch.query?_eq_some hq).1
      simp only [Watch.cancel, hstage]

/-- A watch that has just come to ask, or that still pauses, has read nothing yet. -/
theorem following_goOn {t : Pipeline κ τ} (f : Following t) {w : Watch}
    (hpausing : ∀ asked wake, w.stage = .pausing asked wake → asked = 0)
    (hasked : ∀ asked, w.stage = .asking asked → asked ≤ t.registry.index)
    (hpublished : t.writing = 0 → w.stage = .asking t.registry.index →
      w.feed.instances = t.registry.snapshot ⟨w.service, true, t.registry.index⟩)
    (hdistinct : (w.feed.instances.map (·.id)).Nodup)
    (hopen : w.stage ≠ .stopped → w.feed.isOpen = true) : Following (t.goOn w) := by
  rcases goOn_cases t w with ⟨query, h, htold, hquery, hfaithful⟩ | h
  · rw [h]
    refine ⟨f.ids, f.index_pos, hpausing, hasked, ?_, hquery, fun _ q _ => hfaithful q _,
      hpublished, hdistinct, hopen⟩
    intro index hi
    rw [htold] at hi
    cases hi
  · rw [h]
    refine ⟨f.ids, f.index_pos, ?_, ?_, ?_, trivial, fun _ _ _ => trivial, ?_, hdistinct, ?_⟩
    · intro asked wake hs
      cases hs
    · intro asked hs
      cases hs
    · intro index hi
      cases hi
    · intro _ hs
      cases hs
    · intro hs
      exact absurd rfl hs

/-- A watch that wakes up for the first time asks without waiting. -/
theorem woken_cases {t : Pipeline κ τ} (f : Following t) :
    t.watch.woken t.now = t.watch ∨
      t.watch.stage ≠ .stopped ∧ t.watch.woken t.now = { t.watch with stage := .asking 0 } := by
  unfold Watch.woken
  cases hs : t.watch.stage with
  | asking asked => exact Or.inl rfl
  | stopped => exact Or.inl rfl
  | pausing asked wake =>
    have h0 := f.pausing_zero asked wake hs
    subst h0
    simp only
    by_cases hw : wake ≤ t.now
    · rw [if_pos hw]
      exact Or.inr ⟨by simp, rfl⟩
    · rw [if_neg hw]
      exact Or.inl rfl

theorem following_woken {t : Pipeline κ τ} (f : Following t) :
    Following (t.goOn (t.watch.woken t.now)) := by
  rcases woken_cases f with h | ⟨hstage, h⟩ <;> rw [h]
  · exact following_goOn f f.pausing_zero f.asked_le f.published f.feed_distinct f.feed_open
  · refine following_goOn f ?_ ?_ ?_ f.feed_distinct (fun _ => f.feed_open hstage)
    · intro asked wake hs
      cases hs
    · intro asked hs
      cases hs
      exact Nat.zero_le _
    · intro _ hs
      have hzero : 0 = t.registry.index := by simpa using hs
      exact absurd hzero (Nat.ne_of_lt f.index_pos)

/-- An answer that is still up to date when it comes in is what is published then. -/
theorem following_answered {t : Pipeline κ τ} (f : Following t) {q : Query}
    (hq : t.watch.query? = some q) {instances : List Instance} {index : Nat}
    (hanswered : t.query = .answered instances index) :
    Following (t.goOn (t.watch.answered (.ok (instances, index)) t.now).1) := by
  obtain ⟨hstage, hq'⟩ := Watch.query?_eq_some hq
  obtain ⟨feed, hw, hin, hfeed⟩ := Watch.answered_ok hstage instances index t.now
  have htold : index ≤ t.registry.index := f.told_le index (by rw [hanswered]; rfl)
  have hdistinct : (instances.map (·.id)).Nodup := by
    have := f.distinct
    rw [hanswered] at this
    exact this
  rw [hw]
  refine following_goOn f ?_ ?_ ?_ ?_ ?_
  · intro asked wake hs
    cases hs
  · intro asked hs
    cases hs
    exact Nat.le_trans (Watch.nextIndex_le _ _) htold
  · intro hwriting hs
    have hnext : Watch.nextIndex q.waitIndex index = t.registry.index := by simpa using hs
    have hcurrent := Watch.nextIndex_eq hnext f.index_pos
    have hfaithful := f.faithful hwriting q hq
    rw [hanswered] at hfaithful
    have hsnapshot : instances = t.registry.snapshot q := hfaithful hcurrent
    show feed.instances = _
    rw [hin, hsnapshot, Registry.sorted_snapshot, hq']
    rfl
  · show (feed.instances.map (·.id)).Nodup
    rw [hin]
    exact Instance.sorted_ids_nodup hdistinct
  · intro _
    have hopen : t.watch.feed.isOpen = true := f.feed_open (by simp [hstage])
    show feed.isOpen = true
    rcases hfeed with h | h <;> rw [h]
    · exact hopen
    · exact hopen

theorem following_query {t : Pipeline κ τ} (f : Following t) {q : Query}
    (hq : t.watch.query? = some q) :
    Following { t with query := t.query.step q t.registry t.now } where
  ids := f.ids
  index_pos := f.index_pos
  pausing_zero := f.pausing_zero
  asked_le := f.asked_le
  told_le := QueryStage.told_step f.told_le
  distinct := QueryStage.distinct_step f.ids f.distinct
  faithful := by
    intro hwriting q' hq'
    have same : q' = q := by
      rw [hq] at hq'
      exact (Option.some.inj hq').symm
    subst same
    exact QueryStage.faithful_step f.ids (f.faithful hwriting q' hq)
  published := f.published
  feed_distinct := f.feed_distinct
  feed_open := f.feed_open

theorem following_watchStep {t : Pipeline κ τ} (f : Following t) : Following t.watchStep := by
  rcases watchStep_cases t with ⟨-, h⟩ | ⟨q, instances, index, hq, hanswered, h⟩ | ⟨q, hq, h⟩ <;>
    rw [h]
  · exact following_woken f
  · exact following_answered f hq hanswered
  · exact following_query f hq

end Pipeline

end ServiceMesh
