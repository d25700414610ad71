-- A registry in memory, told by the changes that it has been through: what stands
-- under an id is its latest registration, and its health is what was last reported
-- since then.
import ServiceMesh.Proofs.Registry.QueryReads

namespace ServiceMesh

namespace Registry

/-! ## What a log of changes says -/

/-- The latest registration of an id is of this instance, and it was not taken back; these are
the changes since. A log has its oldest change first. -/
structure Stands (log : List Mutation) (i : Instance) (since : List Mutation) : Prop where
  registered : Mutation.register i :: since <:+ log
  not_anew : ∀ j, Mutation.register j ∈ since → j.id ≠ i.id
  not_taken_back : Mutation.deregister i.id ∉ since

/-- What health checks report of an id. -/
def report? (id : String) : Mutation → Option Bool
  | .setPassing id' passing => if id' = id then some passing else none
  | _ => none

/-- Whether an id passes after these changes since it was registered: as last reported, and
before any report it does. -/
def health (id : String) (since : List Mutation) : Bool :=
  (since.filterMap (report? id)).getLast?.getD true

theorem health_snoc (id : String) (since : List Mutation) (m : Mutation) :
    health id (since ++ [m]) = (report? id m).getD (health id since) := by
  unfold health
  rw [List.filterMap_append]
  cases h : report? id m with
  | none => simp [h]
  | some passing => simp [h]

/-- A change ends what stands under an id: it is registered anew, or taken back. -/
def Ends (id : String) : Mutation → Prop
  | .register j => j.id = id
  | .deregister id' => id' = id
  | .setPassing _ _ => False

theorem not_stands_nil (i : Instance) (since : List Mutation) : ¬ Stands [] i since := by
  intro h
  have := h.registered.length_le
  simp at this

theorem stands_now (past : List Mutation) (i : Instance) :
    Stands (past ++ [.register i]) i [] :=
  ⟨List.suffix_append past [.register i], by simp, by simp⟩

theorem Stands.more {past since : List Mutation} {i : Instance} (h : Stands past i since)
    {m : Mutation} (hm : ¬ Ends i.id m) : Stands (past ++ [m]) i (since ++ [m]) := by
  refine ⟨?_, ?_, ?_⟩
  · obtain ⟨front, hfront⟩ := h.registered
    exact ⟨front, by rw [← hfront]; simp⟩
  · intro j hj
    rcases List.mem_append.mp hj with before | now
    · exact h.not_anew j before
    · rw [← List.mem_singleton.mp now] at hm
      exact hm
  · intro hd
    rcases List.mem_append.mp hd with before | now
    · exact h.not_taken_back before
    · rw [← List.mem_singleton.mp now] at hm
      exact hm rfl

/-- What stands after one more change is what that change registers, or it stood before. -/
theorem stands_snoc {past since : List Mutation} {i : Instance} {m : Mutation} :
    Stands (past ++ [m]) i since ↔ (m = .register i ∧ since = []) ∨
      ∃ before, since = before ++ [m] ∧ Stands past i before ∧ ¬ Ends i.id m := by
  constructor
  · intro h
    obtain ⟨front, hfront⟩ := h.registered
    rcases List.eq_nil_or_concat' since with none | ⟨before, last, hlast⟩
    · rw [none] at hfront
      obtain ⟨-, hm⟩ := List.append_inj' hfront rfl
      exact .inl ⟨(List.singleton_inj.mp hm).symm, none⟩
    · right
      have hsplit : (front ++ .register i :: before) ++ [last] = past ++ [m] := by
        rw [← hfront, hlast]
        simp
      obtain ⟨hpast, hm⟩ := List.append_inj' hsplit rfl
      obtain rfl := List.singleton_inj.mp hm
      refine ⟨before, hlast, ⟨⟨front, hpast⟩, ?_, ?_⟩, ?_⟩
      · intro j hj
        exact h.not_anew j (by rw [hlast]; simp [hj])
      · intro hd
        exact h.not_taken_back (by rw [hlast]; simp [hd])
      · intro ends
        cases last with
        | register j => exact h.not_anew j (by rw [hlast]; simp) ends
        | deregister id =>
          obtain rfl : id = i.id := ends
          exact h.not_taken_back (by rw [hlast]; simp)
        | setPassing id passing => exact ends
  · rintro (⟨rfl, rfl⟩ | ⟨before, rfl, h, hm⟩)
    · exact stands_now past i
    · exact h.more hm

/-! ## Entries after a change -/

theorem entry?_filter_ne (r : Registry) {id gone : String} (h : id ≠ gone) :
    (r.entries.filter (·.inst.id != gone)).find? (·.inst.id == id) = r.entry? id := by
  unfold entry?
  rw [List.find?_filter]
  congr 1
  funext e
  by_cases he : e.inst.id = id
  · simp [he, h]
  · simp [he]

theorem entry?_filter_self (r : Registry) (id : String) :
    (r.entries.filter (·.inst.id != id)).find? (·.inst.id == id) = none := by
  rw [List.find?_eq_none]
  intro e he
  simpa using (List.mem_filter.mp he).2

/-- Once a change has ended what an id had, the id has what the change registers. -/
theorem entry?_write_of_ends (r : Registry) {id : String} {m : Mutation} (h : Ends id m)
    (e : Entry) : entry? (r.write m) id = some e ↔ m = .register e.inst ∧ e.passing = true := by
  cases m with
  | register i =>
    obtain rfl : i.id = id := h
    have now : entry? (r.write (.register i)) i.id = some ⟨i, true⟩ := by
      change (r.entries.filter _ ++ [_]).find? _ = _
      rw [List.find?_append, entry?_filter_self]
      simp
    rw [now]
    constructor
    · rintro ⟨⟩
      exact ⟨rfl, rfl⟩
    · rintro ⟨hm, passing⟩
      cases e with
      | mk inst p =>
        obtain rfl : i = inst := Mutation.register.inj hm
        obtain rfl : p = true := passing
        rfl
  | deregister id' =>
    obtain rfl : id' = id := h
    have now : entry? (r.write (.deregister id')) id' = none := entry?_filter_self r id'
    simp [now]
  | setPassing id' passing => cases h

/-- What an entry becomes by a change that does not end it. -/
def reported (m : Mutation) (e : Entry) : Entry :=
  { e with passing := (report? e.inst.id m).getD e.passing }

/-- Any other change leaves an id the instance that it has, and sets its health if it reports
on it. -/
theorem entry?_write_of_not_ends (r : Registry) {id : String} {m : Mutation} (h : ¬ Ends id m) :
    entry? (r.write m) id = (r.entry? id).map (reported m) := by
  cases m with
  | register i =>
    have hid : i.id ≠ id := h
    change (r.entries.filter _ ++ [_]).find? _ = _
    rw [List.find?_append, entry?_filter_ne r (Ne.symm hid)]
    cases r.entry? id <;> simp [hid, reported, report?]
  | deregister id' =>
    have hid : id' ≠ id := h
    change (r.entries.filter _).find? _ = _
    rw [entry?_filter_ne r (Ne.symm hid)]
    cases r.entry? id <;> rfl
  | setPassing id' passing =>
    change (r.entries.map _).find? _ = _
    have same : ((fun e : Entry => e.inst.id == id) ∘ fun e : Entry =>
        if e.inst.id = id' then { e with passing } else e) = fun e => e.inst.id == id := by
      funext e
      simp only [Function.comp_apply]
      split <;> rfl
    rw [List.find?_map, same]
    change (r.entry? id).map _ = _
    cases he : r.entry? id with
    | none => rfl
    | some e =>
      have hid := id_of_entry? he
      by_cases hs : id = id'
      · simp [reported, report?, hid, hs]
      · simp [reported, report?, hid, hs, Ne.symm hs]

/-! ## Entries after a log -/

theorem applyAll_snoc (r : Registry) (past : List Mutation) (m : Mutation) :
    r.applyAll (past ++ [m]) = ((r.applyAll past).write m).bump :=
  List.foldl_concat ..

theorem index_applyAll (r : Registry) (log : List Mutation) :
    (r.applyAll log).index = r.index + log.length := by
  induction log using List.reverseRecOn with
  | nil => rfl
  | append_singleton past m ih =>
    rw [applyAll_snoc, List.length_append]
    change ((r.applyAll past).write m).index + 1 = _
    rw [index_write, ih]
    rfl

theorem ids_applyAll (log : List Mutation) : (applyAll {} log).ids.Nodup := by
  induction log using List.reverseRecOn with
  | nil => exact List.nodup_nil
  | append_singleton past m ih =>
    rw [applyAll_snoc]
    exact ids_write_nodup ih m

/-- An entry is what a log says of its id. -/
def Told (log : List Mutation) (e : Entry) : Prop :=
  ∃ since, Stands log e.inst since ∧ e.passing = health e.inst.id since

theorem told_snoc_of_ends {past : List Mutation} {m : Mutation} {e : Entry}
    (h : Ends e.inst.id m) : Told (past ++ [m]) e ↔ m = .register e.inst ∧ e.passing = true := by
  constructor
  · rintro ⟨since, stands, passing⟩
    rcases stands_snoc.mp stands with ⟨hm, rfl⟩ | ⟨before, -, -, hm⟩
    · exact ⟨hm, passing⟩
    · exact absurd h hm
  · rintro ⟨rfl, passing⟩
    exact ⟨[], stands_now past e.inst, passing⟩

theorem Told.more {past : List Mutation} {e : Entry} (h : Told past e) {m : Mutation}
    (hm : ¬ Ends e.inst.id m) : Told (past ++ [m]) (reported m e) := by
  obtain ⟨before, stood, passing⟩ := h
  refine ⟨before ++ [m], stood.more hm, ?_⟩
  unfold reported
  rw [health_snoc, passing]

theorem Told.before {past : List Mutation} {m : Mutation} {e : Entry}
    (h : Told (past ++ [m]) e) (hm : ¬ Ends e.inst.id m) : ∃ d, Told past d ∧ reported m d = e := by
  obtain ⟨since, stands, passing⟩ := h
  rcases stands_snoc.mp stands with ⟨rfl, -⟩ | ⟨before, rfl, stood, -⟩
  · exact absurd rfl hm
  · refine ⟨⟨e.inst, health e.inst.id before⟩, ⟨before, stood, rfl⟩, ?_⟩
    rw [health_snoc] at passing
    unfold reported
    rw [← passing]

theorem told_step {r : Registry} {past : List Mutation}
    (ih : ∀ id e, r.entry? id = some e ↔ e.inst.id = id ∧ Told past e) (m : Mutation)
    (id : String) (e : Entry) :
    entry? (r.write m) id = some e ↔ e.inst.id = id ∧ Told (past ++ [m]) e := by
  by_cases h : Ends id m
  · rw [entry?_write_of_ends r h]
    constructor
    · rintro ⟨rfl, passing⟩
      have hid : e.inst.id = id := h
      have ends : Ends e.inst.id (.register e.inst) := rfl
      exact ⟨hid, (told_snoc_of_ends ends).mpr ⟨rfl, passing⟩⟩
    · rintro ⟨rfl, told⟩
      exact (told_snoc_of_ends h).mp told
  · rw [entry?_write_of_not_ends r h, Option.map_eq_some_iff]
    constructor
    · rintro ⟨d, hd, rfl⟩
      obtain ⟨rfl, told⟩ := (ih id d).mp hd
      exact ⟨rfl, told.more h⟩
    · rintro ⟨rfl, told⟩
      obtain ⟨d, stood, rfl⟩ := told.before h
      exact ⟨d, (ih d.inst.id d).mpr ⟨rfl, stood⟩, rfl⟩

/-- The entries of a registry are what its log says of their ids. -/
theorem entry?_applyAll (log : List Mutation) (id : String) (e : Entry) :
    entry? (applyAll {} log) id = some e ↔ e.inst.id = id ∧ Told log e := by
  induction log using List.reverseRecOn generalizing id e with
  | nil =>
    constructor
    · intro h
      cases h
    · rintro ⟨-, since, stands, -⟩
      exact absurd stands (not_stands_nil _ _)
  | append_singleton past m ih =>
    rw [applyAll_snoc]
    exact told_step ih m id e

/-! ## What a query answers -/

theorem mem_snapshot_iff (r : Registry) (q : Query) (h : r.ids.Nodup) (i : Instance) :
    i ∈ r.snapshot q ↔ ∃ e, r.entry? i.id = some e ∧ e.inst = i ∧ matchesEntry q e = true := by
  unfold snapshot
  rw [Instance.mem_sorted, List.mem_map]
  constructor
  · rintro ⟨e, he, rfl⟩
    obtain ⟨hin, hm⟩ := List.mem_filter.mp he
    exact ⟨e, entry?_of_mem h hin, rfl, hm⟩
  · rintro ⟨e, he, rfl, hm⟩
    exact ⟨e, List.mem_filter.mpr ⟨List.mem_of_find?_eq_some he, hm⟩, rfl⟩

/-- What an answer owes to the log of the changes before it. -/
structure TellsLog (log : List Mutation) (service : String) (passingOnly : Bool)
    (a : QueryAnswer) : Prop where
  /-- By id, and never two of one id. -/
  increasing : a.instances.Pairwise fun i j => i.id < j.id
  /-- The latest registrations that were not taken back, if they are under the service, and if
  health counts, those last reported to pass, or not reported on. -/
  exactly : ∀ i, i ∈ a.instances ↔ i.name = service ∧
    ∃ since, Stands log i since ∧ (passingOnly = true → health i.id since = true)
  /-- Every change counts, also one about an id that is not known. -/
  counted : a.index = 1 + log.length

theorem tellsLog_snapshot (log : List Mutation) (service : String) (passingOnly : Bool)
    (now : Instant) :
    TellsLog log service passingOnly ((applyAll {} log).answer ⟨service, passingOnly, 0⟩ now) := by
  have nodup : (applyAll {} log).ids.Nodup := ids_applyAll log
  refine ⟨snapshot_increasing nodup _, ?_, index_applyAll {} log⟩
  intro i
  change i ∈ (applyAll {} log).snapshot _ ↔ _
  rw [mem_snapshot_iff _ _ nodup]
  constructor
  · rintro ⟨e, he, rfl, hm⟩
    obtain ⟨-, since, stands, passing⟩ := (entry?_applyAll log _ e).mp he
    simp only [matchesEntry, Bool.and_eq_true, beq_iff_eq, Bool.or_eq_true,
      Bool.not_eq_true'] at hm
    refine ⟨hm.1, since, stands, ?_⟩
    intro only
    rw [← passing]
    simpa [only] using hm.2
  · rintro ⟨hname, since, stands, passing⟩
    refine ⟨⟨i, health i.id since⟩, (entry?_applyAll log _ _).mpr ⟨rfl, since, stands, rfl⟩,
      rfl, ?_⟩
    cases passingOnly with
    | false => simp [matchesEntry, hname]
    | true => simp [matchesEntry, hname, passing rfl]

/-- A query that does not wait answers at once, from the log alone: the registry stays as it
is, the changes to come are still to come, and taken in small steps it answers the same. -/
theorem a_query_answers_what_the_log_says (log : List Mutation) (service : String)
    (passingOnly : Bool) (now : Instant) (wait : Nat) (changes : List (Instant × Mutation)) :
    ∃ answer, (applyAll {} log).query ⟨service, passingOnly, 0⟩ now wait changes =
        .ok (answer, applyAll {} log, changes) ∧ answer.at_ = now ∧
      QueryStage.steps ⟨service, passingOnly, 0⟩ (applyAll {} log) now
          ((applyAll {} log).entries.length + 2)
          (QueryStage.start ⟨service, passingOnly, 0⟩ now wait) =
        .answered answer.instances answer.index ∧
      TellsLog log service passingOnly answer := by
  have nodup : (applyAll {} log).ids.Nodup := ids_applyAll log
  refine ⟨(applyAll {} log).answer ⟨service, passingOnly, 0⟩ now, if_pos rfl, rfl, ?_, ?_⟩
  · exact QueryStage.an_undisturbed_query_answers_the_snapshot _ nodup now
  · exact tellsLog_snapshot log service passingOnly now

end Registry

end ServiceMesh
