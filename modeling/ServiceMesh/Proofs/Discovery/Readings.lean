-- A reader of the endpoints, and lists that are published in between: what each
-- read shows and what the factory is asked for, told by the lists alone.
import Mathlib.Data.List.Nodup
import ServiceMesh.Proofs.Discovery.Rebuild

namespace ServiceMesh

variable {τ κ : Type}

/-! ## Orders -/

/-- What a factory was asked for, and what it answered, in order. -/
abbrev Orders (κ : Type) := List (Instance × Except Failure κ)

namespace Factory

/-- The factory, with a book of its orders beside its own state. -/
def booked (factory : Factory τ κ) : Factory (τ × Orders κ) κ := fun i => do
  let answer ← (factory i).on Prod.fst fun t s => (t, s.2)
  Act.modify fun s => (s.1, s.2 ++ [(i, answer)])
  return answer

/-- The factory, asked for one instance after the other, answers like this, with its states
before and after. -/
inductive Answers (factory : Factory τ κ) : τ → Orders κ → τ → Prop
  | nil (t : τ) : Answers factory t [] t
  | cons {i : Instance} {answer : Except Failure κ} {orders : Orders κ} {t t₁ t' : τ}
      {notes : List Note} (first : (factory i).run t = ⟨.ok answer, t₁, notes⟩)
      (rest : Answers factory t₁ orders t') : Answers factory t ((i, answer) :: orders) t'

variable {factory : Factory τ κ}

theorem Answers.append {t t₁ t' : τ} {before after : Orders κ}
    (h : factory.Answers t before t₁) (h' : factory.Answers t₁ after t') :
    factory.Answers t (before ++ after) t' := by
  induction h with
  | nil => exact h'
  | cons first _ ih => exact .cons first (ih h')

theorem run_booked (hf : factory.Returns) (i : Instance) (t : τ) (book : Orders κ) :
    ∃ answer t' notes notes', (factory i).run t = ⟨.ok answer, t', notes⟩ ∧
      (factory.booked i).run (t, book) = ⟨.ok answer, (t', book ++ [(i, answer)]), notes'⟩ := by
  obtain ⟨answer, hanswer⟩ := hf i t
  have hrun : (factory i).run (t, book).1 =
      ⟨.ok answer, ((factory i).run t).state, ((factory i).run t).notes⟩ := by
    rw [← hanswer]
  have hbooked : ∃ notes', (factory.booked i).run (t, book) =
      ⟨.ok answer, (((factory i).run t).state, book ++ [(i, answer)]), notes'⟩ := by
    unfold booked
    rw [Act.run_bind_ok (Act.run_on hrun)]
    exact ⟨_, rfl⟩
  obtain ⟨notes', hbooked⟩ := hbooked
  exact ⟨answer, _, _, notes', hrun, hbooked⟩

theorem returns_booked (hf : factory.Returns) : factory.booked.Returns := by
  rintro i ⟨t, book⟩
  obtain ⟨answer, t', notes, notes', -, hrun⟩ := run_booked hf i t book
  exact ⟨answer, by rw [hrun]⟩

/-- An order is put down once, with the answer of the factory as it is then. -/
theorem of_run_booked (hf : factory.Returns) {i : Instance} {s s' : τ × Orders κ}
    {answer : Except Failure κ} {notes : List Note}
    (h : (factory.booked i).run s = ⟨.ok answer, s', notes⟩) :
    s'.2 = s.2 ++ [(i, answer)] ∧ ∃ notes', (factory i).run s.1 = ⟨.ok answer, s'.1, notes'⟩ := by
  obtain ⟨answer', t', notes₁, notes₂, hfirst, hrun⟩ := run_booked hf i s.1 s.2
  rw [h] at hrun
  cases hrun
  exact ⟨rfl, notes₁, hfirst⟩

end Factory

namespace EndpointSet

/-! ## A list and the endpoints of its instances -/

/-- The endpoint that was built for an instance as it is registered now. -/
def keeps? (held : List (Built κ)) (i : Instance) : Option κ :=
  (held.find? (·.inst = i)).map (·.endpoint)

/-- The endpoint that an instance comes by: the one that it keeps, or the one that the factory
answers with. -/
def comesBy (held : List (Built κ)) (asked : Orders κ) (i : Instance) : Option κ :=
  (keeps? held i).or ((asked.find? (·.1 = i)).bind (·.2.toOption))

/-- What is held when a list has been gone through. -/
def remade (held : List (Built κ)) (asked : Orders κ) (latest : List Instance) :
    List (Built κ) :=
  latest.filterMap fun i => (comesBy held asked i).map (Built.mk i)

theorem endpoints_remade (held : List (Built κ)) (asked : Orders κ) (latest : List Instance) :
    (remade held asked latest).map (·.endpoint) = latest.filterMap (comesBy held asked) := by
  unfold remade
  rw [List.map_filterMap]
  congr 1
  funext i
  cases comesBy held asked i <;> rfl

/-- Where ids are told apart, it does not matter whether one looks for the id or for all of the
registration. -/
theorem keeps?_eq {held : List (Built κ)} (h : (held.map (·.inst.id)).Nodup) (i : Instance) :
    keeps? held i = (kept? held i).map (·.endpoint) := by
  unfold keeps? kept?
  induction held with
  | nil => rfl
  | cons b held ih =>
    rw [List.map_cons] at h
    obtain ⟨hnew, hrest⟩ := List.nodup_cons.mp h
    by_cases hi : b.inst = i
    · simp [hi, Option.filter]
    · by_cases hid : b.inst.id = i.id
      · have nobody : held.find? (·.inst = i) = none := by
          rw [List.find?_eq_none]
          intro c hc hci
          apply hnew
          rw [hid, ← of_decide_eq_true hci]
          exact List.mem_map_of_mem (f := fun b : Built κ => b.inst.id) hc
        simp [hi, hid, nobody, Option.filter]
      · simpa [hi, hid] using ih hrest

/-- An order for another instance makes no difference. -/
theorem remade_cons {held : List (Built κ)} {o : Instance × Except Failure κ} {asked : Orders κ}
    {latest : List Instance} (h : o.1 ∉ latest) :
    remade held (o :: asked) latest = remade held asked latest := by
  unfold remade
  apply List.filterMap_congr
  intro i hi
  have hne : o.1 ≠ i := by
    rintro rfl
    exact h hi
  simp [comesBy, hne]

/-! ## Rebuilds with a book -/

/-- What a rebuild makes of a list, told by the orders that it adds to the book: one for every
instance that keeps nothing, in order, and none for the others. -/
def Ordered (factory : Factory τ κ) (old : List (Built κ)) (is : List Instance)
    (s s' : τ × Orders κ) (bs : List (Built κ)) : Prop :=
  ∃ asked, s'.2 = s.2 ++ asked ∧ bs = remade old asked is ∧
    asked.map (·.1) = is.filter (fun i => (keeps? old i).isNone) ∧
    factory.Answers s.1 asked s'.1

/-- One more order in front, with or without success. -/
theorem Ordered.asked {factory : Factory τ κ} (hf : factory.Returns) {old bs : List (Built κ)}
    {i : Instance} {is : List Instance} {s s₁ s' : τ × Orders κ} {answer : Except Failure κ}
    {notes : List Note} (h : Ordered factory old is s₁ s' bs) (hnew : i ∉ is)
    (hkeeps : keeps? old i = none) (hrun : (factory.booked i).run s = ⟨.ok answer, s₁, notes⟩) :
    Ordered factory old (i :: is) s s' ((answer.toOption.map (Built.mk i)).toList ++ bs) := by
  obtain ⟨asked, hbook, hbs, hasked, hanswers⟩ := h
  obtain ⟨hput, notes', hfirst⟩ := Factory.of_run_booked hf hrun
  have tail : remade old ((i, answer) :: asked) is = bs := by
    rw [remade_cons hnew, hbs]
  refine ⟨(i, answer) :: asked, ?_, ?_, ?_, .cons hfirst hanswers⟩
  · rw [hbook, hput, List.append_assoc]
    rfl
  · rw [← tail]
    cases answer <;> simp [remade, comesBy, hkeeps, Except.toOption]
  · simp [hasked, hkeeps]

theorem Remade.ordered {factory : Factory τ κ} (hf : factory.Returns) {old bs : List (Built κ)}
    {is : List Instance} {s s' : τ × Orders κ} (h : Remade factory.booked old is s bs s')
    (hold : (old.map (·.inst.id)).Nodup) (his : is.Nodup) : Ordered factory old is s s' bs := by
  have keeps_none : ∀ {i : Instance}, kept? old i = none → keeps? old i = none := by
    intro i hb
    rw [keeps?_eq hold, hb]
    rfl
  induction h with
  | nil s => exact ⟨[], by simp, rfl, rfl, .nil s.1⟩
  | @kept i b is bs s s' hb _ ih =>
    obtain ⟨asked, hbook, hbs, hasked, hanswers⟩ := ih (List.nodup_cons.mp his).2
    have hi := (of_kept? hb).2
    have hkeeps : keeps? old i = some b.endpoint := by
      rw [keeps?_eq hold, hb]
      rfl
    have hself : comesBy old asked i = some b.endpoint := by
      unfold comesBy
      rw [hkeeps]
      rfl
    refine ⟨asked, hbook, ?_, ?_, hanswers⟩
    · unfold remade at hbs ⊢
      rw [List.filterMap_cons, hself, hbs, ← hi]
      rfl
    · simp [hasked, hkeeps]
  | made hb he _ ih =>
    obtain ⟨hnew, hrest⟩ := List.nodup_cons.mp his
    exact (ih hrest).asked hf hnew (keeps_none hb) he
  | failed hb he _ ih =>
    obtain ⟨hnew, hrest⟩ := List.nodup_cons.mp his
    exact (ih hrest).asked hf hnew (keeps_none hb) he

theorem nodup_insts {bs : List (Built κ)} {is : List Instance} (h : (is.map (·.id)).Nodup)
    (hsub : (bs.map (·.inst)).Sublist is) : (bs.map (·.inst.id)).Nodup := by
  have hids := hsub.map (·.id)
  rw [List.map_map] at hids
  exact hids.nodup h

/-- A rebuild, told by the list that it is for, what was held before, and its orders. -/
theorem rebuild_ordered {factory : Factory τ κ} (hf : factory.Returns) {is : List Instance}
    (his : (is.map (·.id)).Nodup) (s : EndpointSet κ) (hs : (s.cache.map (·.inst.id)).Nodup)
    (t : τ) (book : Orders κ) :
    ∃ asked t' notes, (rebuild factory.booked is s).run (t, book) =
        ⟨.ok { s with cache := remade s.cache asked is
                      endpoints := is.filterMap (comesBy s.cache asked) },
          (t', book ++ asked), notes⟩ ∧
      asked.map (·.1) = is.filter (fun i => (keeps? s.cache i).isNone) ∧
      factory.Answers t asked t' ∧ ((remade s.cache asked is).map (·.inst.id)).Nodup := by
  obtain ⟨bs, ⟨t', book'⟩, notes, hrun, hmade⟩ :=
    rebuild_remade (Factory.returns_booked hf) his s (t, book)
  obtain ⟨asked, hbook, hbs, hasked, hanswers⟩ := hmade.ordered hf hs (List.Nodup.of_map _ his)
  simp only at hbook
  subst hbook hbs
  refine ⟨asked, t', notes, ?_, hasked, hanswers, nodup_insts his hmade.sublist⟩
  rw [hrun, endpoints_remade]

end EndpointSet

end ServiceMesh
