-- What a rebuild makes of a list of instances, and what a pick then finds. An
-- instance that is listed as before keeps its endpoint, the factory is asked
-- for the others, and an instance that it fails for is left out.
import ServiceMesh.Discovery.Rotation

namespace ServiceMesh

variable {τ κ : Type}

namespace Factory

/-- A factory that comes to an end for every instance, with an endpoint or a failure. -/
def Returns (factory : Factory τ κ) : Prop :=
  ∀ i t, ∃ r, ((factory i).run t).result = .ok r

/-- The factory has built this endpoint for this instance, at some time. -/
def Gives (factory : Factory τ κ) (i : Instance) (e : κ) : Prop :=
  ∃ t, ((factory i).run t).result = .ok (.ok e)

/-- The factory has failed for this instance, at some time. -/
def FailsFor (factory : Factory τ κ) (i : Instance) : Prop :=
  ∃ t f, ((factory i).run t).result = .ok (.error f)

end Factory

namespace EndpointSet

/-! ## One instance after the other -/

/-- What an instance keeps: what was built for it, if it is listed as before. -/
def kept? (old : List (Built κ)) (i : Instance) : Option (Built κ) :=
  (old.find? (·.inst.id == i.id)).filter (·.inst = i)

theorem of_kept? {old : List (Built κ)} {i : Instance} {b : Built κ} (h : kept? old i = some b) :
    b ∈ old ∧ b.inst = i := by
  obtain ⟨hfind, hi⟩ := Option.filter_eq_some_iff.mp h
  exact ⟨List.mem_of_find?_eq_some hfind, by simpa using hi⟩

theorem kept?_filter_ne {old : List (Built κ)} {i j : Instance} (h : j.id ≠ i.id) :
    kept? (old.filter (·.inst.id != i.id)) j = kept? old j := by
  unfold kept?
  rw [List.find?_filter]
  congr 2
  funext b
  by_cases hb : b.inst.id = j.id
  · simp [hb, h]
  · simp [hb]

/-- What is made of a list of instances, in order, with the states of the factory before and
after. -/
inductive Remade (factory : Factory τ κ) (old : List (Built κ)) :
    List Instance → τ → List (Built κ) → τ → Prop
  | nil (t : τ) : Remade factory old [] t [] t
  | kept {i : Instance} {b : Built κ} {is : List Instance} {bs : List (Built κ)} {t t' : τ}
      (hb : kept? old i = some b) (rest : Remade factory old is t bs t') :
      Remade factory old (i :: is) t (b :: bs) t'
  | made {i : Instance} {e : κ} {is : List Instance} {bs : List (Built κ)} {t t₁ t' : τ}
      {notes : List Note} (hb : kept? old i = none)
      (he : (factory i).run t = ⟨.ok (.ok e), t₁, notes⟩) (rest : Remade factory old is t₁ bs t') :
      Remade factory old (i :: is) t (⟨i, e⟩ :: bs) t'
  | failed {i : Instance} {f : Failure} {is : List Instance} {bs : List (Built κ)} {t t₁ t' : τ}
      {notes : List Note} (hb : kept? old i = none)
      (he : (factory i).run t = ⟨.ok (.error f), t₁, notes⟩)
      (rest : Remade factory old is t₁ bs t') : Remade factory old (i :: is) t bs t'

namespace Rebuild

variable (service : String) (factory : Factory τ κ)

/-- A set under way after an instance is off the old one. -/
def without (r : Rebuild κ) (i : Instance) : Rebuild κ :=
  { r with previous := r.previous.filter (·.inst.id != i.id) }

theorem next_kept {r : Rebuild κ} {i : Instance} {b : Built κ} (hb : kept? r.previous i = some b)
    (t : τ) : (next service factory r i).run t = ⟨.ok ((r.without i).add b), t, []⟩ := by
  unfold kept? at hb
  unfold next
  simp only [hb]
  rfl

theorem next_made {r : Rebuild κ} {i : Instance} {e : κ} {t t₁ : τ} {notes : List Note}
    (hb : kept? r.previous i = none) (he : (factory i).run t = ⟨.ok (.ok e), t₁, notes⟩) :
    ∃ notes', (next service factory r i).run t =
      ⟨.ok ((r.without i).add ⟨i, e⟩), t₁, notes'⟩ := by
  unfold kept? at hb
  unfold next
  simp only [hb]
  rw [Act.run_bind_ok he]
  exact ⟨_, rfl⟩

theorem next_failed {r : Rebuild κ} {i : Instance} {f : Failure} {t t₁ : τ} {notes : List Note}
    (hb : kept? r.previous i = none) (he : (factory i).run t = ⟨.ok (.error f), t₁, notes⟩) :
    ∃ notes', (next service factory r i).run t = ⟨.ok (r.without i), t₁, notes'⟩ := by
  unfold kept? at hb
  unfold next
  simp only [hb]
  rw [Act.run_bind_ok he]
  exact ⟨_, rfl⟩

end Rebuild

/-! ## A whole rebuild -/

/-- A set under way to which the instances still to come owe nothing yet. -/
structure Ahead (old : List (Built κ)) (r : Rebuild κ) (is : List Instance) : Prop where
  distinct : (is.map (·.id)).Nodup
  fresh : ∀ i ∈ is, ∀ b ∈ r.cache, b.inst.id ≠ i.id
  recalls : ∀ i ∈ is, kept? r.previous i = kept? old i

theorem Ahead.without {old : List (Built κ)} {r : Rebuild κ} {i : Instance} {is : List Instance}
    (h : Ahead old r (i :: is)) : Ahead old (r.without i) is where
  distinct := (List.nodup_cons.mp h.distinct).2
  fresh := by
    intro j hj
    exact h.fresh j (List.mem_cons_of_mem i hj)
  recalls := by
    intro j hj
    have hne : j.id ≠ i.id := by
      intro he
      exact (List.nodup_cons.mp h.distinct).1 (List.mem_map.mpr ⟨j, hj, he⟩)
    unfold Rebuild.without
    rw [kept?_filter_ne hne]
    exact h.recalls j (List.mem_cons_of_mem i hj)

/-- What is added for an instance comes last. -/
theorem Ahead.add_eq {old : List (Built κ)} {r : Rebuild κ} {i : Instance} {is : List Instance}
    (h : Ahead old r (i :: is)) {b : Built κ} (hb : b.inst = i) :
    (r.without i).add b = { r.without i with cache := r.cache ++ [b]
                                             endpoints := r.endpoints ++ [b.endpoint] } := by
  have keep : r.cache.filter (·.inst.id != b.inst.id) = r.cache := by
    rw [List.filter_eq_self]
    intro c hc
    rw [hb]
    simpa using h.fresh i (List.mem_cons_self) c hc
  unfold Rebuild.add Rebuild.without
  rw [keep]

theorem Ahead.add {old : List (Built κ)} {r : Rebuild κ} {i : Instance} {is : List Instance}
    (h : Ahead old r (i :: is)) {b : Built κ} (hb : b.inst = i) :
    Ahead old ((r.without i).add b) is where
  distinct := h.without.distinct
  fresh := by
    intro j hj c hc
    rw [h.add_eq hb] at hc
    rcases List.mem_append.mp hc with hc | hc
    · exact h.fresh j (List.mem_cons_of_mem i hj) c hc
    · rw [List.mem_singleton.mp hc, hb]
      intro he
      exact (List.nodup_cons.mp h.distinct).1 (List.mem_map.mpr ⟨j, hj, he.symm⟩)
  recalls := h.without.recalls

theorem foldlM_next {factory : Factory τ κ} (hf : factory.Returns) (service : String)
    (old : List (Built κ)) (is : List Instance) (r : Rebuild κ) (h : Ahead old r is) (t : τ) :
    ∃ bs r' t' notes, (is.foldlM (Rebuild.next service factory) r).run t = ⟨.ok r', t', notes⟩ ∧
      Remade factory old is t bs t' ∧ r'.cache = r.cache ++ bs ∧
      r'.endpoints = r.endpoints ++ bs.map (·.endpoint) := by
  induction is generalizing r t with
  | nil => exact ⟨[], r, t, [], rfl, .nil t, by simp, by simp⟩
  | cons i is ih =>
    rw [List.foldlM_cons]
    have recalls := h.recalls i List.mem_cons_self
    cases hb : kept? old i with
    | some b =>
      have hi := (of_kept? hb).2
      obtain ⟨bs, r', t', notes, hrun, hmade, hcache, hends⟩ := ih _ (h.add hi) t
      rw [Act.run_bind_ok (Rebuild.next_kept service factory (recalls.trans hb) t), hrun]
      refine ⟨b :: bs, r', t', _, rfl, .kept hb hmade, ?_, ?_⟩
      · rw [hcache, h.add_eq hi]
        simp
      · rw [hends, h.add_eq hi]
        simp
    | none =>
      obtain ⟨result, hr⟩ := hf i t
      cases hout : (factory i).run t with
      | mk res t₁ notes₁ =>
        rw [hout] at hr
        simp only at hr
        subst hr
        cases result with
        | ok e =>
          obtain ⟨notes₂, hnext⟩ := Rebuild.next_made service factory (recalls.trans hb) hout
          have hi : (⟨i, e⟩ : Built κ).inst = i := rfl
          obtain ⟨bs, r', t', notes, hrun, hmade, hcache, hends⟩ := ih _ (h.add hi) t₁
          rw [Act.run_bind_ok hnext, hrun]
          refine ⟨⟨i, e⟩ :: bs, r', t', _, rfl, .made hb hout hmade, ?_, ?_⟩
          · rw [hcache, h.add_eq hi]
            simp
          · rw [hends, h.add_eq hi]
            simp
        | error f =>
          obtain ⟨notes₂, hnext⟩ := Rebuild.next_failed service factory (recalls.trans hb) hout
          obtain ⟨bs, r', t', notes, hrun, hmade, hcache, hends⟩ := ih _ h.without t₁
          rw [Act.run_bind_ok hnext, hrun]
          exact ⟨bs, r', t', _, rfl, .failed hb hout hmade, hcache, hends⟩

/-- A rebuild over instances with different ids comes to an end, and remakes the set. -/
theorem rebuild_remade {factory : Factory τ κ} (hf : factory.Returns) {is : List Instance}
    (h : (is.map (·.id)).Nodup) (s : EndpointSet κ) (t : τ) :
    ∃ bs t' notes, (rebuild factory is s).run t =
        ⟨.ok { s with cache := bs, endpoints := bs.map (·.endpoint) }, t', notes⟩ ∧
      Remade factory s.cache is t bs t' := by
  have ahead : Ahead s.cache (⟨s.cache, [], []⟩ : Rebuild κ) is :=
    ⟨h, by simp, fun _ _ => rfl⟩
  obtain ⟨bs, r', t', notes, hrun, hmade, hcache, hends⟩ :=
    foldlM_next hf s.service s.cache is _ ahead t
  rw [List.nil_append] at hcache hends
  unfold rebuild
  rw [Act.run_bind_ok hrun, Act.run_bind_ok (Act.run_note _ _), hcache, hends]
  exact ⟨bs, t', _, rfl, hmade⟩

/-! ## What is remade -/

namespace Remade

variable {factory : Factory τ κ} {old : List (Built κ)} {is : List Instance} {t t' : τ}
  {bs : List (Built κ)}

/-- The instances keep their order. -/
theorem sublist (h : Remade factory old is t bs t') : (bs.map (·.inst)).Sublist is := by
  induction h with
  | nil => exact List.Sublist.refl _
  | kept hb _ ih =>
    rw [List.map_cons, (of_kept? hb).2]
    exact ih.cons_cons _
  | made _ _ _ ih => exact ih.cons_cons _
  | failed _ _ _ ih => exact ih.cons _

/-- Everything was built by the factory if what is kept was. -/
theorem given (h : Remade factory old is t bs t')
    (hold : ∀ b ∈ old, factory.Gives b.inst b.endpoint) :
    ∀ b ∈ bs, factory.Gives b.inst b.endpoint := by
  induction h with
  | nil => simp
  | kept hb _ ih => exact List.forall_mem_cons.mpr ⟨hold _ (of_kept? hb).1, ih⟩
  | @made i e is bs t t₁ t' notes _ he _ ih =>
    exact List.forall_mem_cons.mpr ⟨⟨t, by rw [he]⟩, ih⟩
  | failed _ _ _ ih => exact ih

/-- An instance is left out only if the factory fails for it. -/
theorem covers (h : Remade factory old is t bs t') :
    ∀ i ∈ is, (∃ b ∈ bs, b.inst = i) ∨ factory.FailsFor i := by
  induction h with
  | nil => simp
  | kept hb _ ih =>
    refine List.forall_mem_cons.mpr ⟨Or.inl ⟨_, List.mem_cons_self, (of_kept? hb).2⟩, ?_⟩
    intro i hi
    exact (ih i hi).imp_left fun ⟨b, hb, hi⟩ => ⟨b, List.mem_cons_of_mem _ hb, hi⟩
  | made _ _ _ ih =>
    refine List.forall_mem_cons.mpr ⟨Or.inl ⟨_, List.mem_cons_self, rfl⟩, ?_⟩
    intro i hi
    exact (ih i hi).imp_left fun ⟨b, hb, hi⟩ => ⟨b, List.mem_cons_of_mem _ hb, hi⟩
  | @failed i f is bs t t₁ t' notes _ he _ ih =>
    exact List.forall_mem_cons.mpr ⟨Or.inr ⟨t, f, by rw [he]⟩, ih⟩

end Remade

/-! ## Reading a feed -/

/-- A set whose endpoints are those that were built, each by the factory. -/
structure Sound (factory : Factory τ κ) (s : EndpointSet κ) : Prop where
  endpoints_eq : s.endpoints = s.cache.map (·.endpoint)
  given : ∀ b ∈ s.cache, factory.Gives b.inst b.endpoint

/-- A set made for a list of instances. -/
structure MadeFor (factory : Factory τ κ) (is : List Instance) (s : EndpointSet κ) : Prop where
  sublist : (s.cache.map (·.inst)).Sublist is
  covers : ∀ i ∈ is, (∃ b ∈ s.cache, b.inst = i) ∨ factory.FailsFor i

theorem rebuild_sound {factory : Factory τ κ} (hf : factory.Returns) {is : List Instance}
    (h : (is.map (·.id)).Nodup) {s : EndpointSet κ} (hs : s.Sound factory) (t : τ) :
    ∃ s' t' notes, (rebuild factory is s).run t = ⟨.ok s', t', notes⟩ ∧ s'.seen = s.seen ∧
      s'.Sound factory ∧ s'.MadeFor factory is := by
  obtain ⟨bs, t', notes, hrun, hmade⟩ := rebuild_remade hf h s t
  exact ⟨_, t', notes, hrun, rfl, ⟨rfl, hmade.given hs.given⟩, ⟨hmade.sublist, hmade.covers⟩⟩

/-- A set that has seen what the feed tells is made for it. -/
def Keeps (factory : Factory τ κ) (feed : Feed) (s : EndpointSet κ) : Prop :=
  s.seen = feed.version → s.MadeFor factory feed.instances

/-- A feed that is closed, or tells of nothing new, leaves the set as it is. -/
theorem read_of_not_news {factory : Factory τ κ} {feed : Feed} {s : EndpointSet κ}
    (h : ¬ (feed.isOpen = true ∧ feed.version ≠ s.seen)) (t : τ) :
    (read factory feed s).run t = ⟨.ok s, t, []⟩ := by
  unfold read
  rw [if_neg h]
  rfl

/-- Reading an open feed brings the set up to date. -/
theorem read_sound {factory : Factory τ κ} (hf : factory.Returns) {feed : Feed}
    (hopen : feed.isOpen = true) (h : (feed.instances.map (·.id)).Nodup) {s : EndpointSet κ}
    (hs : s.Sound factory) (hk : s.Keeps factory feed) (t : τ) :
    ∃ s' t' notes, (read factory feed s).run t = ⟨.ok s', t', notes⟩ ∧
      s'.seen = feed.version ∧ s'.Sound factory ∧ s'.MadeFor factory feed.instances := by
  by_cases hseen : s.seen = feed.version
  · exact ⟨s, t, [], read_of_not_news (by simp [hseen]) t, hseen, hs, hk hseen⟩
  · unfold read
    rw [if_pos ⟨hopen, Ne.symm hseen⟩]
    have hs' : Sound factory { s with seen := feed.version } := ⟨hs.endpoints_eq, hs.given⟩
    obtain ⟨s', t', notes, hrun, hsame, hsound, hmade⟩ := rebuild_sound hf h hs' t
    exact ⟨s', t', notes, hrun, hsame, hsound, hmade⟩

/-- A set that is new to a feed is made for it. -/
theorem ofFeed_sound {factory : Factory τ κ} (hf : factory.Returns) (service : String)
    {feed : Feed} (h : (feed.instances.map (·.id)).Nodup) (t : τ) :
    ∃ s' t' notes, (ofFeed service factory feed).run t = ⟨.ok s', t', notes⟩ ∧
      s'.seen = feed.version ∧ s'.Sound factory ∧ s'.MadeFor factory feed.instances :=
  rebuild_sound hf h ⟨rfl, by simp⟩ t

end EndpointSet

/-! ## Picks -/

/-- A pick takes the endpoint whose turn it is, or leaves the turn since there is none. -/
theorem Rotation.pick_turn (endpoints : List κ) (r : Rotation) :
    (endpoints = [] ∧ r.pick endpoints = (.error Rotation.nothing, r)) ∨
      ∃ e, endpoints[r.cursor % endpoints.length]? = some e ∧
        r.pick endpoints = (.ok e, r.advance) := by
  unfold pick
  by_cases hnil : endpoints = []
  · subst hnil
    exact Or.inl ⟨rfl, rfl⟩
  · have hlt : r.cursor % endpoints.length < endpoints.length :=
      Nat.mod_lt _ (List.length_pos_iff.mpr hnil)
    rw [List.getElem?_eq_getElem hlt]
    exact Or.inr ⟨_, rfl, rfl⟩

/-- A pick finds one of the endpoints, or finds that there is none. -/
theorem Rotation.pick_cases (endpoints : List κ) (r : Rotation) :
    (endpoints = [] ∧ (r.pick endpoints).1 = .error Rotation.nothing) ∨
      ∃ e ∈ endpoints, (r.pick endpoints).1 = .ok e := by
  rcases r.pick_turn endpoints with ⟨hnil, hpick⟩ | ⟨e, hturn, hpick⟩
  · exact Or.inl ⟨hnil, by rw [hpick]⟩
  · exact Or.inr ⟨e, List.mem_of_getElem? hturn, by rw [hpick]⟩

/-- A pick from a sound set finds what was built for some instance, if anything was. -/
theorem EndpointSet.Sound.pick_cases {factory : Factory τ κ} {s : EndpointSet κ}
    (h : s.Sound factory) (r : Rotation) :
    (s.cache = [] ∧ (r.pick s.endpoints).1 = .error Rotation.nothing) ∨
      ∃ b ∈ s.cache, (r.pick s.endpoints).1 = .ok b.endpoint := by
  rcases Rotation.pick_cases s.endpoints r with ⟨hnil, hpick⟩ | ⟨e, hin, hpick⟩
  · rw [h.endpoints_eq] at hnil
    exact Or.inl ⟨List.map_eq_nil_iff.mp hnil, hpick⟩
  · rw [h.endpoints_eq] at hin
    obtain ⟨b, hb, rfl⟩ := List.mem_map.mp hin
    exact Or.inr ⟨b, hb, hpick⟩

namespace Backends

theorem run_renew {factory : Factory τ κ} {make : EndpointSet κ → Feed → Act τ (EndpointSet κ)}
    {b : Backends κ} {t t' : τ} {s' : EndpointSet κ} {notes : List Note}
    (h : (make b.set b.feed).run t = ⟨.ok s', t', notes⟩) :
    (renew factory make).run (b, t) = ⟨.ok (), ({ b with set := s' }, t'), notes⟩ := by
  unfold Act.run at h
  unfold renew Act.run
  simp only [h]

/-- A read shows the endpoints that there are once the feed is read. -/
theorem run_refresh {factory : Factory τ κ} {b : Backends κ} {t t' : τ} {s' : EndpointSet κ}
    {notes : List Note} (h : (EndpointSet.read factory b.feed b.set).run t = ⟨.ok s', t', notes⟩) :
    ∃ notes', (refresh factory).run (b, t) =
      ⟨.ok s'.endpoints, ({ b with set := s' }, t'), notes'⟩ := by
  unfold refresh
  rw [Act.run_bind_ok (run_renew h)]
  exact ⟨_, rfl⟩

/-- A pick reads the feed, and picks from the endpoints that there are then. -/
theorem pick_run {factory : Factory τ κ} {b : Backends κ} {t t' : τ} {s' : EndpointSet κ}
    {notes : List Note} (h : (EndpointSet.read factory b.feed b.set).run t = ⟨.ok s', t', notes⟩) :
    ∃ notes', (pick factory).run (b, t) =
      ⟨.ok (b.rotation.pick s'.endpoints).1,
        ({ b with set := s', rotation := (b.rotation.pick s'.endpoints).2 }, t'), notes'⟩ := by
  obtain ⟨notes', hrefresh⟩ := run_refresh h
  unfold pick
  rw [Act.run_bind_ok hrefresh]
  exact ⟨_, rfl⟩

end Backends

end ServiceMesh
