-- Names of users. Nobody looks for a name beforehand: the store decides, and
-- of the registrations of a free name exactly one succeeds.
import ServiceMesh.Proofs.Account.Changes

namespace ServiceMesh.Accounts

variable {s : Setting Users} {a b : Accounts Users} {c d : Call} {book : Book} {t : Traffic}

/-! ## Names -/

/-- The name that a registration has taken. -/
def Call.registered : Call → Option String
  | .register r (.ended (.ok (.ok _))) => some r.username
  | _ => none

/-- Call `i` is a registration of a name, and has succeeded. -/
def Traffic.Registered (t : Traffic) (name : String) (i : Nat) : Prop :=
  ∃ c, t.calls[i]? = some c ∧ c.registered = some name

/-- A name is taken from the start, or by the one registration of it that has succeeded. A
registration that was refused met a taken name, and one that failed had no hash. -/
structure Named (s : Setting Users) (first : Users) (t : Traffic) : Prop where
  taken : ∀ name, (t.users.find? name).isSome ↔
    (first.find? name).isSome ∨ ∃ i, t.Registered name i
  once : ∀ name i j, t.Registered name i → t.Registered name j → i = j
  free : ∀ name i, t.Registered name i → first.find? name = none
  refused : ∀ (i : Nat) r e, t.calls[i]? = some (.register r (.ended (.ok (.error e)))) →
    (t.users.find? r.username).isSome
  unhashed : ∀ (i : Nat) r f, t.calls[i]? = some (.register r (.ended (.error f))) →
    ∃ n, s.passwords.hash n r.password = .error f

/-- A turn leaves the names as they are, or registers one that was free. -/
theorem Turn.registered (h : Turn s a c b d) :
    (d.registered = c.registered ∧
      ∀ name, (b.stored.find? name).isSome ↔ (a.stored.find? name).isSome) ∨
    ∃ name, c.registered = none ∧ d.registered = some name ∧ a.stored.find? name = none ∧
      ∀ other, (b.stored.find? other).isSome ↔ (a.stored.find? other).isSome ∨ other = name := by
  cases h with
  | @inserted r hash u hn hu hh =>
    refine Or.inr ⟨r.username, rfl, rfl, hn, fun other => ?_⟩
    show (Users.find? (a.stored ++ [u]) other).isSome ↔ _
    rw [find?_insert (by rw [hu]; exact hn), hu]
    by_cases he : other = r.username <;> simp [he]
  | swapped =>
    refine Or.inl ⟨rfl, fun name => ?_⟩
    show (Users.find? (Users.setHash _ _ _) name).isSome ↔ _
    rw [Users.find?_setHash]
    simp
  | _ => exact Or.inl ⟨rfl, fun _ => Iff.rfl⟩

theorem named_quiet : Named s a.stored (.quiet a) := by
  refine ⟨fun name => ?_, ?_, ?_, ?_, ?_⟩ <;>
    simp [Traffic.quiet, Traffic.Registered, Traffic.users]

theorem registered_begin {name : String} {i : Nat} (hc : c.registered = none) :
    (t.begin c).Registered name i ↔ t.Registered name i := by
  constructor
  · rintro ⟨d, hd, hr⟩
    rcases get_begin hd with hd | rfl
    · exact ⟨d, hd, hr⟩
    · rw [hc] at hr; cases hr
  · rintro ⟨d, hd, hr⟩
    refine ⟨d, ?_, hr⟩
    show (t.calls ++ [c])[i]? = some d
    rw [List.getElem?_append_left (List.getElem?_eq_some_iff.1 hd).1]
    exact hd

theorem named_begin {first : Users} (h : Named s first t) (hc : c.Beginning) :
    Named s first (t.begin c) := by
  have hnone : c.registered = none := by
    unfold Call.Beginning at hc
    split at hc <;> first | rfl | exact hc.elim
  have hover : ∀ r result, c ≠ .register r (.ended result) := by
    rintro r result rfl
    exact hc
  refine ⟨fun name => ?_, fun name i j hi hj => ?_, fun name i hi => ?_, fun i r e hi => ?_,
    fun i r f hi => ?_⟩
  · simp only [registered_begin hnone]
    exact h.taken name
  · exact h.once name i j ((registered_begin hnone).1 hi) ((registered_begin hnone).1 hj)
  · exact h.free name i ((registered_begin hnone).1 hi)
  · rcases get_begin hi with hi | he
    · exact h.refused i r e hi
    · exact absurd he.symm (hover _ _)
  · rcases get_begin hi with hi | he
    · exact h.unhashed i r f hi
    · exact absurd he.symm (hover _ _)

theorem registered_set {name : String} {i j : Nat} (hi : i < t.calls.length) :
    Traffic.Registered ⟨b, t.calls.set i d⟩ name j ↔
      if j = i then d.registered = some name else t.Registered name j := by
  unfold Traffic.Registered
  show (∃ e, (t.calls.set i d)[j]? = some e ∧ _) ↔ _
  by_cases hj : j = i
  · subst hj
    rw [List.getElem?_set_self hi]
    simp
  · rw [List.getElem?_set_ne (Ne.symm hj)]
    simp [hj]

/-- A turn registers no name, or one that was free, for the call whose turn it is. -/
theorem registered_turn {i : Nat} (hc : t.calls[i]? = some c) (ht : Turn s t.accounts c b d) :
    ((∀ name j, Traffic.Registered ⟨b, t.calls.set i d⟩ name j ↔ t.Registered name j) ∧
      ∀ name, (b.stored.find? name).isSome ↔ (t.users.find? name).isSome) ∨
    ∃ new, t.users.find? new = none ∧
      (∀ name j, Traffic.Registered ⟨b, t.calls.set i d⟩ name j ↔
        t.Registered name j ∨ (j = i ∧ name = new)) ∧
      ∀ name, (b.stored.find? name).isSome ↔ (t.users.find? name).isSome ∨ name = new := by
  have hlt := (List.getElem?_eq_some_iff.1 hc).1
  have hmine : ∀ name, t.Registered name i ↔ c.registered = some name := by
    intro name
    unfold Traffic.Registered
    rw [hc]
    simp
  rcases ht.registered with ⟨hd, hn⟩ | ⟨new, hcn, hd, hfree, hn⟩
  · refine Or.inl ⟨fun name j => ?_, hn⟩
    rw [registered_set hlt]
    split
    · rename_i hj
      rw [hj, hmine, hd]
    · rfl
  · refine Or.inr ⟨new, hfree, fun name j => ?_, hn⟩
    rw [registered_set hlt]
    split
    · rename_i hj
      rw [hj, hmine, hd, hcn]
      simp [eq_comm]
    · rename_i hj
      simp [hj]

theorem named_turn {first : Users} (h : Named s first t) {i : Nat} (hc : t.calls[i]? = some c)
    (ht : Turn s t.accounts c b d) : Named s first ⟨b, t.calls.set i d⟩ := by
  have hrefused : ∀ (j : Nat) r e, (t.calls.set i d)[j]? = some (.register r (.ended (.ok (.error e)))) →
      (t.users.find? r.username).isSome := by
    intro j r e hj
    rcases get_set hj with ⟨_, rfl⟩ | ⟨_, hj⟩
    · cases ht with
      | taken hf => show (Users.find? t.accounts.stored _).isSome; rw [hf]; rfl
      | registerOver => exact h.refused _ _ _ hc
    · exact h.refused j r e hj
  have hunhashed : ∀ (j : Nat) r f, (t.calls.set i d)[j]? = some (.register r (.ended (.error f))) →
      ∃ n, s.passwords.hash n r.password = .error f := by
    intro j r f hj
    rcases get_set hj with ⟨_, rfl⟩ | ⟨_, hj⟩
    · cases ht with
      | unhashed hh => exact ⟨_, hh⟩
      | registerOver => exact h.unhashed _ _ _ hc
    · exact h.unhashed j r f hj
  rcases registered_turn hc ht with ⟨hreg, hn⟩ | ⟨new, hfree, hreg, hn⟩
  · refine ⟨fun name => ?_, fun name j k hj hk => ?_, fun name j hj => ?_,
      fun j r e hj => (hn _).2 (hrefused j r e hj), hunhashed⟩
    · simp only [hreg]
      exact (hn name).trans (h.taken name)
    · exact h.once name j k ((hreg name j).1 hj) ((hreg name k).1 hk)
    · exact h.free name j ((hreg name j).1 hj)
  · -- The new name was free, so no call had registered it and it was free at the start.
    have hfirst : ¬ ((first.find? new).isSome ∨ ∃ j, t.Registered new j) := by
      rw [← h.taken new, hfree]
      simp
    refine ⟨fun name => ?_, fun name j k hj hk => ?_, fun name j hj => ?_,
      fun j r e hj => (hn _).2 (Or.inl (hrefused j r e hj)), hunhashed⟩
    · simp only [hreg]
      refine (hn name).trans ?_
      rw [h.taken name]
      constructor
      · rintro ((hf | ⟨j, hj⟩) | rfl)
        · exact Or.inl hf
        · exact Or.inr ⟨j, Or.inl hj⟩
        · exact Or.inr ⟨i, Or.inr ⟨rfl, rfl⟩⟩
      · rintro (hf | ⟨j, hj | ⟨_, rfl⟩⟩)
        · exact Or.inl (Or.inl hf)
        · exact Or.inl (Or.inr ⟨j, hj⟩)
        · exact Or.inr rfl
    · rcases (hreg name j).1 hj with hj' | ⟨hji, rfl⟩
      · rcases (hreg name k).1 hk with hk' | ⟨_, rfl⟩
        · exact h.once name j k hj' hk'
        · exact absurd (Or.inr ⟨j, hj'⟩) hfirst
      · rcases (hreg name k).1 hk with hk' | ⟨hki, _⟩
        · exact absurd (Or.inr ⟨k, hk'⟩) hfirst
        · rw [hji, hki]
    · rcases (hreg name j).1 hj with hj | ⟨_, rfl⟩
      · exact h.free name j hj
      · cases hf : first.find? name with
        | none => rfl
        | some u => exact absurd (Or.inl (by rw [hf]; rfl)) hfirst

theorem named_run (hs : Honest s) (events : List Event) :
    Named s a.stored (Traffic.run s (.quiet a) events) := by
  induction events using List.reverseRecOn with
  | nil => exact named_quiet
  | append_singleton events e ih =>
    rw [Traffic.run_snoc]
    cases e with
    | register r | change r => exact named_begin ih trivial
    | wait seconds => exact ⟨ih.taken, ih.once, ih.free, ih.refused, ih.unhashed⟩
    | turn i =>
      show Named s a.stored ((Traffic.run s (.quiet a) events).turn s i)
      cases hc : (Traffic.run s (.quiet a) events).calls[i]? with
      | none => simpa [Traffic.turn, hc] using ih
      | some c =>
        obtain ⟨b, d, he, ht⟩ := turn_spec hs.in_memory hc
        rw [he]
        exact named_turn ih hc ht

end ServiceMesh.Accounts
