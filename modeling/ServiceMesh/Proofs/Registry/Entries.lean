-- What a registry in memory holds: one entry for an id, whatever the changes, and
-- snapshots in the order of the ids.
import Mathlib.Data.List.Nodup
import ServiceMesh.Registry.Memory

namespace ServiceMesh

namespace Instance

/-! ## Order -/

theorem mem_sorted {i : Instance} {is : List Instance} : i ∈ sorted is ↔ i ∈ is := by
  unfold sorted
  exact List.mem_mergeSort

theorem sorted_pairwise (is : List Instance) : (sorted is).Pairwise fun a b => a.id ≤ b.id := by
  have h : (sorted is).Pairwise fun a b => decide (a.id ≤ b.id) = true := by
    unfold sorted
    refine List.pairwise_mergeSort ?_ ?_ is
    · intro a b c hab hbc
      rw [decide_eq_true_eq] at *
      exact String.le_trans hab hbc
    · intro a b
      rw [Bool.or_eq_true, decide_eq_true_eq, decide_eq_true_eq]
      exact String.le_total a.id b.id
  simpa using h

theorem sorted_of_pairwise {is : List Instance} (h : is.Pairwise fun a b => a.id ≤ b.id) :
    sorted is = is := by
  unfold sorted
  exact List.mergeSort_of_pairwise (by simpa using h)

theorem sorted_sorted (is : List Instance) : sorted (sorted is) = sorted is :=
  sorted_of_pairwise (sorted_pairwise is)

theorem sorted_ids_nodup {is : List Instance} (h : (is.map (·.id)).Nodup) :
    ((sorted is).map (·.id)).Nodup :=
  (((List.mergeSort_perm is _).map (·.id)).nodup_iff).mpr h

end Instance

namespace Registry

/-! ## One entry for an id -/

/-- The ids of the entries. -/
def ids (r : Registry) : List String := r.entries.map (·.inst.id)

theorem ids_setPassing (r : Registry) (id : String) (passing : Bool) :
    (r.write (.setPassing id passing)).ids = r.ids := by
  unfold ids write
  rw [List.map_map]
  refine List.map_congr_left ?_
  intro e _
  simp only [Function.comp_apply]
  split <;> rfl

theorem ids_filter_nodup {r : Registry} (h : r.ids.Nodup) (p : Entry → Bool) :
    ((r.entries.filter p).map (·.inst.id)).Nodup :=
  h.sublist (List.filter_sublist.map _)

/-- No change puts two entries under one id. -/
theorem ids_write_nodup {r : Registry} (h : r.ids.Nodup) (m : Mutation) :
    (r.write m).ids.Nodup := by
  cases m with
  | register i =>
    unfold ids write
    rw [List.map_append, List.nodup_append]
    refine ⟨ids_filter_nodup h _, by simp, ?_⟩
    intro id hid id' hid'
    obtain ⟨e, he, rfl⟩ := List.mem_map.mp hid
    have hne := (List.mem_filter.mp he).2
    rw [List.map_singleton, List.mem_singleton] at hid'
    rw [hid']
    simpa using hne
  | deregister id => exact ids_filter_nodup h _
  | setPassing id passing =>
    rw [ids_setPassing]
    exact h

theorem entry?_of_mem {r : Registry} (h : r.ids.Nodup) {e : Entry} (he : e ∈ r.entries) :
    r.entry? e.inst.id = some e := by
  unfold entry?
  obtain ⟨d, hd⟩ : ∃ d, r.entries.find? (·.inst.id == e.inst.id) = some d := by
    rw [← Option.isSome_iff_exists, List.find?_isSome]
    exact ⟨e, he, by simp⟩
  have hid : d.inst.id = e.inst.id := by simpa using List.find?_some hd
  rw [hd, List.inj_on_of_nodup_map h (List.mem_of_find?_eq_some hd) he hid]

theorem id_of_entry? {r : Registry} {id : String} {e : Entry} (h : r.entry? id = some e) :
    e.inst.id = id := by
  simpa using List.find?_some h

/-! ## Snapshots -/

/-- An instance of a service is registered and passes its health checks. -/
def Offers (r : Registry) (service : String) (i : Instance) : Prop :=
  ∃ e ∈ r.entries, e.inst = i ∧ e.passing = true ∧ i.name = service

theorem mem_snapshot (r : Registry) (service : String) (index : Nat) (i : Instance) :
    i ∈ r.snapshot ⟨service, true, index⟩ ↔ r.Offers service i := by
  unfold snapshot Offers
  rw [Instance.mem_sorted, List.mem_map]
  constructor
  · rintro ⟨e, he, rfl⟩
    obtain ⟨hin, hm⟩ := List.mem_filter.mp he
    simp only [matchesEntry, Bool.not_true, Bool.false_or, Bool.and_eq_true, beq_iff_eq] at hm
    exact ⟨e, hin, rfl, hm.2, hm.1⟩
  · rintro ⟨e, hin, rfl, hp, hn⟩
    refine ⟨e, List.mem_filter.mpr ⟨hin, ?_⟩, rfl⟩
    simp [matchesEntry, hp, hn]

theorem snapshot_ids_nodup {r : Registry} (h : r.ids.Nodup) (q : Query) :
    ((r.snapshot q).map (·.id)).Nodup := by
  unfold snapshot
  refine Instance.sorted_ids_nodup ?_
  rw [List.map_map]
  exact ids_filter_nodup h _

/-- A snapshot goes strictly up in its ids. -/
theorem snapshot_increasing {r : Registry} (h : r.ids.Nodup) (q : Query) :
    (r.snapshot q).Pairwise fun a b => a.id < b.id := by
  have hne := List.pairwise_map.mp (snapshot_ids_nodup h q)
  have hle := Instance.sorted_pairwise ((r.entries.filter (matchesEntry q)).map (·.inst))
  refine (List.Pairwise.and hle hne).imp ?_
  intro a b hab
  exact Std.lt_of_le_of_ne hab.1 hab.2

theorem sorted_snapshot (r : Registry) (q : Query) :
    Instance.sorted (r.snapshot q) = r.snapshot q :=
  Instance.sorted_sorted _

end Registry

/-! ## Queries in small steps -/

namespace QueryStage

open Registry

/-- All that a query can begin as. -/
inductive Started (q : Query) (now : Instant) (wait : Nat) : QueryStage → Prop where
  | at_once (hw : q.waitIndex = 0) : Started q now wait .indexing
  | waits (hw : q.waitIndex ≠ 0) (hrange : now + wait < Instant.limit) :
    Started q now wait (.waiting (now + wait))
  | breaks_off (hw : q.waitIndex ≠ 0) (hout : Instant.limit ≤ now + wait) :
    Started q now wait (.brokenOff .clockRange)

theorem start_started (q : Query) (now : Instant) (wait : Nat) :
    Started q now wait (start q now wait) := by
  unfold start
  by_cases hw : q.waitIndex = 0
  · rw [if_pos hw]
    exact .at_once hw
  · rw [if_neg hw]
    by_cases hrange : now + wait < Instant.limit
    · rw [Instant.after_of_lt hrange]
      exact .waits hw hrange
    · have hout := Nat.le_of_not_lt hrange
      rw [Instant.after_of_limit_le hout]
      exact .breaks_off hw hout

/-- The index that a query has read, once it has. -/
def told? : QueryStage → Option Nat
  | .reading index _ _ => some index
  | .answered _ index => some index
  | _ => none

/-- What a query has is what the registry holds, unless the index has moved on. -/
def Faithful (q : Query) (r : Registry) : QueryStage → Prop
  | .reading index pending found => index = r.index →
    ∃ seen rest, r.entries = seen ++ rest ∧ pending = rest.map (·.inst.id) ∧
      found = (seen.filter (matchesEntry q)).map (·.inst)
  | .answered instances index => index = r.index → instances = r.snapshot q
  | _ => True

/-- A query never comes to look at two entries of one id. -/
def Distinct : QueryStage → Prop
  | .reading _ pending found => (found.map (·.id) ++ pending).Nodup
  | .answered instances _ => (instances.map (·.id)).Nodup
  | _ => True

theorem told_step {q : Query} {r : Registry} {now : Instant} {stage : QueryStage}
    (h : ∀ index, stage.told? = some index → index ≤ r.index) :
    ∀ index, (stage.step q r now).told? = some index → index ≤ r.index := by
  intro index hi
  unfold step at hi
  cases stage with
  | waiting deadline =>
    simp only at hi
    split at hi <;> cases hi
  | indexing =>
    cases hi
    exact Nat.le_refl _
  | reading i pending found =>
    cases pending with
    | nil => exact h index hi
    | cons id pending => exact h index hi
  | answered instances i => exact h index hi
  | brokenOff c => cases hi

theorem distinct_step {q : Query} {r : Registry} {now : Instant} {stage : QueryStage}
    (hr : r.ids.Nodup) (h : stage.Distinct) : (stage.step q r now).Distinct := by
  unfold step
  cases stage with
  | waiting deadline =>
    simp only
    split <;> trivial
  | indexing => exact hr
  | reading i pending found =>
    cases pending with
    | nil =>
      have hn : (found.map (·.id)).Nodup := by simpa [Distinct] using h
      exact Instance.sorted_ids_nodup hn
    | cons id pending =>
      -- The id leaves what is to be looked at, and comes to what is found or is dropped.
      have fewer : (found.map (·.id) ++ pending).Nodup :=
        h.sublist (List.Sublist.append_left (List.sublist_cons_self id pending) _)
      cases he : r.entry? id with
      | none => simpa [Distinct, he] using fewer
      | some e =>
        have hid := id_of_entry? he
        by_cases hm : matchesEntry q e = true
        · simpa [Distinct, he, hm, hid] using h
        · simpa [Distinct, he, hm] using fewer
  | answered instances i => exact h
  | brokenOff c => trivial

theorem faithful_step {q : Query} {r : Registry} {now : Instant} {stage : QueryStage}
    (hr : r.ids.Nodup) (h : stage.Faithful q r) : (stage.step q r now).Faithful q r := by
  unfold step
  cases stage with
  | waiting deadline =>
    simp only
    split <;> trivial
  | indexing =>
    intro _
    exact ⟨[], r.entries, rfl, rfl, rfl⟩
  | reading i pending found =>
    cases pending with
    | nil =>
      intro hi
      obtain ⟨seen, rest, hsplit, hrest, hfound⟩ := h hi
      have none : rest = [] := List.map_eq_nil_iff.mp hrest.symm
      rw [none, List.append_nil] at hsplit
      unfold snapshot
      rw [hfound, hsplit]
    | cons id pending =>
      intro hi
      obtain ⟨seen, rest, hsplit, hrest, hfound⟩ := h hi
      cases rest with
      | nil => cases hrest
      | cons e rest =>
        obtain ⟨rfl, rfl⟩ := List.cons.inj hrest
        have he : r.entry? e.inst.id = some e := entry?_of_mem hr (by rw [hsplit]; simp)
        refine ⟨seen ++ [e], rest, by simp [hsplit], rfl, ?_⟩
        simp only [he, hfound]
        by_cases hm : matchesEntry q e = true
        · simp [hm]
        · simp [hm]
  | answered instances i => exact h
  | brokenOff c => trivial

/-- When the index moves on, nothing is asked of what was read before. -/
theorem faithful_of_moved {q : Query} {r : Registry} {stage : QueryStage}
    (h : ∀ index, stage.told? = some index → index < r.index) : stage.Faithful q r := by
  cases stage with
  | waiting deadline => trivial
  | indexing => trivial
  | reading i pending found =>
    intro hi
    have := h i rfl
    omega
  | answered instances i =>
    intro hi
    have := h i rfl
    omega
  | brokenOff c => trivial

/-- Steps of a query during which the registry stays as it is. -/
def steps (q : Query) (r : Registry) (now : Instant) : Nat → QueryStage → QueryStage
  | 0, stage => stage
  | n + 1, stage => steps q r now n (stage.step q r now)

theorem faithful_steps (q : Query) {r : Registry} (now : Instant) (hr : r.ids.Nodup) (n : Nat)
    {stage : QueryStage} (h : stage.Faithful q r) : (steps q r now n stage).Faithful q r := by
  induction n generalizing stage with
  | zero => exact h
  | succ n ih => exact ih (faithful_step hr h)

/-- A query looks at one id after the other, and then answers. -/
theorem steps_reading (q : Query) (r : Registry) (now : Instant) (index : Nat)
    (pending : List String) (found : List Instance) :
    ∃ instances, steps q r now (pending.length + 1) (.reading index pending found) =
      .answered instances index := by
  induction pending generalizing found with
  | nil => exact ⟨_, rfl⟩
  | cons id pending ih => exact ih _

/-- A query that no change disturbs answers the snapshot, and the index it belongs to. -/
theorem an_undisturbed_query_answers_the_snapshot (q : Query) {r : Registry} (hr : r.ids.Nodup)
    (now : Instant) :
    steps q r now (r.entries.length + 2) .indexing = .answered (r.snapshot q) r.index := by
  have faithful : (steps q r now (r.entries.length + 2) .indexing).Faithful q r :=
    faithful_steps q now hr _ trivial
  obtain ⟨instances, h⟩ := steps_reading q r now r.index (r.entries.map (·.inst.id)) []
  rw [List.length_map] at h
  have answered : steps q r now (r.entries.length + 2) .indexing =
      .answered instances r.index := h
  rw [answered] at faithful ⊢
  rw [faithful rfl]

end QueryStage

end ServiceMesh
