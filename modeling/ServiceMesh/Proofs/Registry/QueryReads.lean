-- What a query has read of a registry that changes meanwhile: each id as it was
-- at some time, and an index that tells of no later one. A change after that
-- time still owes a greater index.
import ServiceMesh.Proofs.Registry.QueryTraffic

namespace ServiceMesh

namespace Registry

/-! ## The index and the changes -/

theorem index_write (r : Registry) (m : Mutation) : (r.write m).index = r.index := by
  cases m <;> rfl

namespace Shared

/-- All that a turn can do. -/
inductive Turned (s : Shared) (k : Nat) : Shared → Prop where
  | wrote (m : Mutation) (h : s.changes[k]? = some ⟨m, .writing⟩) :
    Turned s k
      { s with registry := s.registry.write m, changes := s.changes.set k ⟨m, .bumping⟩ }
  | bumped (m : Mutation) (h : s.changes[k]? = some ⟨m, .bumping⟩) :
    Turned s k { s with registry := s.registry.bump, changes := s.changes.set k ⟨m, .finished⟩ }
  | nothing : Turned s k s

theorem turn_turned (s : Shared) (k : Nat) : Turned s k (s.turn k) := by
  unfold turn
  match h : s.changes[k]? with
  | some ⟨m, .writing⟩ => exact .wrote m h
  | some ⟨m, .bumping⟩ => exact .bumped m h
  | some ⟨m, .finished⟩ => exact .nothing
  | none => exact .nothing

theorem ids_step {s : Shared} (h : s.registry.ids.Nodup) (e : Event) :
    (s.step e).registry.ids.Nodup := by
  cases e with
  | begin m => exact h
  | turn k =>
    have turned := turn_turned s k
    change (s.turn k).registry.ids.Nodup
    generalize s.turn k = s' at turned ⊢
    cases turned with
    | wrote m hm => exact ids_write_nodup h m
    | bumped m hm => exact h
    | nothing => exact h
  | wait millis => exact h

theorem ids_run {s : Shared} (h : s.registry.ids.Nodup) (events : List Event) :
    (s.run events).registry.ids.Nodup := by
  induction events using List.reverseRecOn with
  | nil => exact h
  | append_singleton past e ih =>
    rw [run_snoc]
    exact ids_step ih e

/-- The index never goes back. -/
theorem index_le_step (s : Shared) (e : Event) : s.registry.index ≤ (s.step e).registry.index := by
  cases e with
  | begin m => exact Nat.le_refl _
  | turn k =>
    have turned := turn_turned s k
    change _ ≤ (s.turn k).registry.index
    generalize s.turn k = s' at turned ⊢
    cases turned with
    | wrote m hm => exact Nat.le_of_eq (index_write s.registry m).symm
    | bumped m hm => exact Nat.le_succ _
    | nothing => exact Nat.le_refl _
  | wait millis => exact Nat.le_refl _

end Shared

/-! ## What a query has read -/

theorem shown_ids (r : Registry) (q : Query) (id : String) :
    ∀ i ∈ r.shown q id, i.id = id := by
  intro i hi
  unfold shown at hi
  cases he : r.entry? id with
  | none => simp [he] at hi
  | some e =>
    rw [he] at hi
    simp only at hi
    split at hi
    · rw [List.mem_singleton.mp hi]
      exact id_of_entry? he
    · cases hi

theorem length_shown_le (r : Registry) (q : Query) (id : String) :
    (r.shown q id).length ≤ 1 := by
  unfold shown
  split
  · split <;> simp
  · simp

theorem shown_of_not_mem {r : Registry} {q : Query} {id : String} (h : id ∉ r.ids) :
    r.shown q id = [] := by
  have none : r.entry? id = none := by
    unfold entry?
    rw [List.find?_eq_none]
    intro e he hid
    exact h (List.mem_map.mpr ⟨e, he, by simpa using hid⟩)
  unfold shown
  rw [none]

/-- A look adds what the query shows of the id. -/
theorem step_reading_cons (q : Query) (r : Registry) (now : Instant) (index : Nat) (id : String)
    (pending : List String) (found : List Instance) :
    QueryStage.step q r now (.reading index (id :: pending) found) =
      .reading index pending (found ++ r.shown q id) := by
  unfold QueryStage.step shown
  cases he : r.entry? id with
  | none => simp only [he, List.append_nil]
  | some e =>
    by_cases hm : matchesEntry q e = true
    · simp only [he, if_pos hm]
    · simp only [he, if_neg hm, List.append_nil]

/-- Sorting changes nothing about a list that has one instance of an id at most. -/
theorem filter_sorted {found : List Instance} {id : String}
    (h : (found.filter (·.id == id)).length ≤ 1) :
    (Instance.sorted found).filter (·.id == id) = found.filter (·.id == id) := by
  have perm : ((Instance.sorted found).filter (·.id == id)).Perm (found.filter (·.id == id)) :=
    (List.mergeSort_perm found _).filter _
  generalize found.filter (·.id == id) = same at perm h
  cases same with
  | nil => exact perm.eq_nil
  | cons i rest =>
    have none : rest = [] := by simpa using h
    rw [none] at perm ⊢
    exact perm.eq_singleton

namespace Asking

variable {t : Asking}

/-- A query takes its index no later than it looks at an id, and tells what it sees there. -/
structure SeenAt (s : Shared) (q : Query) (index : Nat) (id : String) (is : List Instance) :
    Prop where
  reached : index ≤ s.registry.index
  shows : is = s.registry.shown q id

/-- What a query tells of an id was so at some time since it began. -/
def Seen (t : Asking) (events : List Event) (index : Nat) (id : String) (is : List Instance) :
    Prop :=
  ∃ past, past <+: events ∧ SeenAt (t.run past).shared t.query index id is

/-- What a query has read that is not through yet. -/
structure Reads (t : Asking) (events : List Event) (index : Nat) (pending looked : List String)
    (found : List Instance) : Prop where
  reached : index ≤ (t.run events).registry.index
  pending_nodup : pending.Nodup
  not_again : ∀ id ∈ pending, id ∉ looked
  found_looked : ∀ i ∈ found, i.id ∈ looked
  /-- Of the ids that it does not come to any more it tells what was so. -/
  seen : ∀ id, id ∉ pending → t.Seen events index id (found.filter (·.id == id))

/-- What a query tells at each stage. -/
def Tells (t : Asking) (events : List Event) (looked : List String) : QueryStage → Prop
  | .waiting _ => looked = []
  | .indexing => looked = []
  | .reading index pending found => t.Reads events index pending looked found
  | .answered instances index => ∀ id, t.Seen events index id (instances.filter (·.id == id))
  | .brokenOff _ => True

structure Good (t : Asking) (events : List Event) : Prop where
  ids_nodup : (t.run events).registry.ids.Nodup
  same_query : (t.run events).query = t.query
  tells : t.Tells events (t.run events).looked (t.run events).stage

theorem Seen.more {past : List Event} {index : Nat} {id : String} {is : List Instance}
    (h : t.Seen past index id is) (e : Event) : t.Seen (past ++ [e]) index id is := by
  obtain ⟨before, hp, hseen⟩ := h
  exact ⟨before, hp.trans (List.prefix_append _ _), hseen⟩

theorem Seen.length_le {past : List Event} {index : Nat} {id : String} {is : List Instance}
    (h : t.Seen past index id is) : is.length ≤ 1 := by
  obtain ⟨before, hp, hseen⟩ := h
  rw [hseen.shows]
  exact length_shown_le _ _ _

/-- What a query sees at the present. -/
theorem seen_now {past : List Event} {index : Nat} (h : index ≤ (t.run past).registry.index)
    (id : String) : t.Seen past index id ((t.run past).registry.shown t.query id) :=
  ⟨past, List.prefix_refl _, ⟨h, rfl⟩⟩

/-! ## What one event leaves of it -/

/-- Only its order and what is put in changes about what is still to be looked at. -/
theorem arrange_cases (t : Asking) (ids : List String) :
    t.arrange ids = t ∨ ∃ index pending found, t.stage = .reading index pending found ∧
      t.arrange ids = { t with stage := .reading index ids found } ∧ ids.Nodup ∧
      (∀ id ∈ pending, id ∈ ids) ∧ ∀ id ∈ ids, id ∉ t.looked := by
  unfold arrange
  split
  · rename_i index pending found hstage
    split
    · rename_i h
      exact Or.inr ⟨index, pending, found, hstage, rfl, h⟩
    · exact Or.inl rfl
  · exact Or.inl rfl

theorem index_le_step (t : Asking) (e : Event) :
    t.registry.index ≤ (t.step e).registry.index := by
  cases e with
  | beside e => exact t.shared.index_le_step e
  | look => exact Nat.le_refl _
  | arrange ids =>
    rcases arrange_cases t ids with h | ⟨index, pending, found, _, h, _⟩
    · exact Nat.le_of_eq (congrArg (·.registry.index) h).symm
    · exact Nat.le_of_eq (congrArg (·.registry.index) h).symm

theorem query_step (t : Asking) (e : Event) : (t.step e).query = t.query := by
  cases e with
  | beside e => rfl
  | look => rfl
  | arrange ids =>
    change (t.arrange ids).query = t.query
    rcases arrange_cases t ids with h | ⟨index, pending, found, _, h, _⟩ <;> rw [h]

theorem ids_step {t : Asking} (h : t.registry.ids.Nodup) (e : Event) :
    (t.step e).registry.ids.Nodup := by
  cases e with
  | beside e => exact Shared.ids_step h e
  | look => exact h
  | arrange ids =>
    change (t.arrange ids).registry.ids.Nodup
    rcases arrange_cases t ids with heq | ⟨index, pending, found, _, heq, _⟩ <;> rw [heq]
    · exact h
    · exact h

theorem Reads.more {past : List Event} {index : Nat} {pending looked : List String}
    {found : List Instance} (r : t.Reads past index pending looked found) (e : Event) :
    t.Reads (past ++ [e]) index pending looked found where
  reached := by
    rw [run_snoc]
    exact Nat.le_trans r.reached (index_le_step _ e)
  pending_nodup := r.pending_nodup
  not_again := r.not_again
  found_looked := r.found_looked
  seen := fun id hid => (r.seen id hid).more e

theorem Tells.more {past : List Event} {looked : List String} {stage : QueryStage}
    (h : t.Tells past looked stage) (e : Event) : t.Tells (past ++ [e]) looked stage := by
  cases stage with
  | waiting deadline => exact h
  | indexing => exact h
  | reading index pending found =>
    have reads : t.Reads past index pending looked found := h
    exact reads.more e
  | answered instances index =>
    intro id
    exact Seen.more (h id) e
  | brokenOff c => trivial

/-- Looking at the next id. -/
theorem Reads.look {past : List Event} {index : Nat} {id : String} {pending looked : List String}
    {found : List Instance} (r : t.Reads past index (id :: pending) looked found) :
    t.Reads past index pending (looked ++ [id])
      (found ++ (t.run past).registry.shown t.query id) := by
  obtain ⟨hid, hnodup⟩ := List.nodup_cons.mp r.pending_nodup
  have fresh : id ∉ looked := r.not_again id List.mem_cons_self
  refine ⟨r.reached, hnodup, ?_, ?_, ?_⟩
  · intro other hother hin
    rcases List.mem_append.mp hin with hin | hin
    · exact r.not_again other (List.mem_cons_of_mem id hother) hin
    · rw [List.mem_singleton.mp hin] at hother
      exact hid hother
  · intro i hi
    rcases List.mem_append.mp hi with hi | hi
    · exact List.mem_append_left _ (r.found_looked i hi)
    · rw [shown_ids _ _ _ i hi]
      simp
  · intro other hother
    rw [List.filter_append]
    by_cases heq : other = id
    · -- Nothing was found of the id before, and all that is shown now is of it.
      have before : found.filter (·.id == other) = [] := by
        refine List.filter_eq_nil_iff.mpr ?_
        intro i hi hsame
        have hlooked := r.found_looked i hi
        rw [beq_iff_eq] at hsame
        rw [hsame, heq] at hlooked
        exact fresh hlooked
      have now : ((t.run past).registry.shown t.query id).filter (·.id == other) =
          (t.run past).registry.shown t.query id := by
        refine List.filter_eq_self.mpr ?_
        intro i hi
        rw [shown_ids _ _ _ i hi, heq]
        exact beq_self_eq_true id
      rw [before, now, List.nil_append, heq]
      exact seen_now r.reached id
    · have now : ((t.run past).registry.shown t.query id).filter (·.id == other) = [] := by
        refine List.filter_eq_nil_iff.mpr ?_
        intro i hi hsame
        rw [shown_ids _ _ _ i hi, beq_iff_eq] at hsame
        exact heq hsame.symm
      rw [now, List.append_nil]
      exact r.seen other (List.not_mem_cons_of_ne_of_not_mem heq hother)

theorem good_look {past : List Event} (g : t.Good past) :
    t.Tells past (t.run past).look.looked (t.run past).look.stage := by
  have tells := g.tells
  have query := g.same_query
  have nodup := g.ids_nodup
  unfold Asking.look
  generalize hstage : (t.run past).stage = stage at tells
  simp only
  rw [query]
  cases stage with
  | waiting deadline =>
    have none : (t.run past).looked = [] := tells
    unfold QueryStage.step
    simp only [QueryStage.next?, Option.toList_none, List.append_nil]
    split <;> exact none
  | indexing =>
    have none : (t.run past).looked = [] := tells
    rw [none]
    refine ⟨Nat.le_refl _, nodup, by simp [QueryStage.next?], by simp, ?_⟩
    intro id hid
    have absent := shown_of_not_mem (q := t.query) hid
    have seen := seen_now (t := t) (Nat.le_refl (t.run past).registry.index) id
    rw [absent] at seen
    exact seen
  | reading index pending found =>
    have reads : t.Reads past index pending (t.run past).looked found := tells
    cases pending with
    | nil =>
      intro id
      have seen := reads.seen id List.not_mem_nil
      rw [filter_sorted seen.length_le]
      exact seen
    | cons id pending =>
      rw [step_reading_cons]
      exact reads.look
  | answered instances index => exact tells
  | brokenOff c => trivial

theorem good_arrange {past : List Event} (g : t.Good past) (ids : List String) :
    t.Tells past ((t.run past).arrange ids).looked ((t.run past).arrange ids).stage := by
  have tells := g.tells
  rcases arrange_cases (t.run past) ids with heq |
    ⟨index, pending, found, hstage, heq, hnodup, hall, hnew⟩
  · rw [heq]
    exact tells
  · rw [hstage] at tells
    have reads : t.Reads past index pending (t.run past).looked found := tells
    rw [heq]
    refine ⟨reads.reached, hnodup, hnew, reads.found_looked, ?_⟩
    intro id hid
    exact reads.seen id (fun hin => hid (hall id hin))

theorem good_step {past : List Event} (g : t.Good past) (e : Event) : t.Good (past ++ [e]) := by
  refine ⟨?_, ?_, ?_⟩
  · rw [run_snoc]
    exact ids_step g.ids_nodup e
  · rw [run_snoc, query_step]
    exact g.same_query
  · refine Tells.more ?_ e
    rw [run_snoc]
    cases e with
    | beside e => exact g.tells
    | look => exact good_look g
    | arrange ids => exact good_arrange g ids

theorem good_ask {s : Shared} (h : s.registry.ids.Nodup) (q : Query) (wait : Nat) :
    (ask s q wait).Good [] := by
  refine ⟨h, rfl, ?_⟩
  change (ask s q wait).Tells [] [] (QueryStage.start q s.now wait)
  have started := QueryStage.start_started q s.now wait
  generalize QueryStage.start q s.now wait = stage at started ⊢
  cases started with
  | at_once hw => rfl
  | waits hw hrange => rfl
  | breaks_off hw hrange => trivial

theorem good_run (g : t.Good []) (events : List Event) : t.Good events := by
  induction events using List.reverseRecOn with
  | nil => exact g
  | append_singleton past e ih => exact good_step ih e

end Asking

end Registry

end ServiceMesh
