-- What a rebuild of the endpoints of a link makes of a list of instances, whatever
-- the ids in it: how often it dials an instance, and what it holds in the end.
import ServiceMesh.Gateway.Link
import ServiceMesh.Proofs.Discovery.Rebuild
import ServiceMesh.Proofs.Endpoint.Quotas

namespace ServiceMesh

namespace EndpointSet

variable {κ : Type}

/-! ## What is held under an id -/

theorem kept?_filter_same {old : List (Built κ)} {i j : Instance} (h : j.id = i.id) :
    kept? (old.filter (·.inst.id != j.id)) i = none := by
  have nobody : (old.filter (·.inst.id != j.id)).find? (·.inst.id == i.id) = none := by
    simp [h]
  unfold kept?
  rw [nobody]
  rfl

namespace Rebuild

variable {r : Rebuild κ} {b : Built κ} {i : Instance}

/-- What is added takes the place of everything with its id. -/
theorem kept?_add_same (h : b.inst.id = i.id) :
    kept? (r.add b).cache i = if b.inst = i then some b else none := by
  unfold kept? add
  have nobody : (r.cache.filter (·.inst.id != b.inst.id)).find? (·.inst.id == i.id) = none := by
    simp [h]
  rw [List.find?_append, nobody]
  simp [h, Option.filter]

theorem kept?_add_other (h : b.inst.id ≠ i.id) : kept? (r.add b).cache i = kept? r.cache i := by
  have before : kept? (r.cache.filter (·.inst.id != b.inst.id)) i = kept? r.cache i :=
    kept?_filter_ne (Ne.symm h)
  rw [← before]
  unfold kept? add
  rw [List.find?_append]
  simp [h]

end Rebuild

end EndpointSet

namespace Link

open EndpointSet (Rebuild kept? of_kept? kept?_filter_ne kept?_filter_same)

/-! ## Dialling -/

/-- Whether an endpoint can be made for an instance. -/
def dialable (i : Instance) : Bool := Web.isRemotePlace i.grpcPlace

/-- The instance that an endpoint was made for. -/
def owner? (ds : List Dialled) (e : Nat) : Option Instance := ds[e]?.map (·.inst)

/-- How often an instance was dialled. -/
def dials (i : Instance) (ds : List Dialled) : Nat := ds.countP (·.inst = i)

theorem dials_snoc (i : Instance) (ds : List Dialled) (d : Dialled) :
    dials i (ds ++ [d]) = dials i ds + if d.inst = i then 1 else 0 := by
  unfold dials
  rw [List.countP_append, List.countP_singleton]
  simp

theorem owner?_snoc (ds : List Dialled) (d : Dialled) :
    owner? (ds ++ [d]) ds.length = some d.inst := by
  unfold owner?
  rw [List.getElem?_append_right (Nat.le_refl _), Nat.sub_self]
  rfl

/-- An endpoint stays with the instance that it was made for. -/
theorem owner?_mono {ds ds' : List Dialled} (h : ds <+: ds') {e : Nat} {i : Instance}
    (he : owner? ds e = some i) : owner? ds' e = some i := by
  obtain ⟨more, rfl⟩ := h
  obtain ⟨d, hd, rfl⟩ := Option.map_eq_some_iff.mp he
  unfold owner?
  rw [List.getElem?_append_left (List.getElem?_eq_some_iff.mp hd).1, hd]
  rfl

theorem dials_eq_zero {i : Instance} {ds : List Dialled} :
    dials i ds = 0 ↔ ∀ n, owner? ds n ≠ some i := by
  unfold dials
  rw [List.countP_eq_zero]
  constructor
  · intro h n hn
    obtain ⟨d, hd, hi⟩ := Option.map_eq_some_iff.mp hn
    exact h d (List.mem_of_getElem? hd) (decide_eq_true hi)
  · intro h d hd hi
    obtain ⟨n, hn⟩ := List.mem_iff_getElem?.mp hd
    apply h n
    unfold owner?
    rw [hn, ← of_decide_eq_true hi]
    rfl

/-- An instance was dialled once at most exactly if no two endpoints are its own. -/
theorem dials_le_one {i : Instance} {ds : List Dialled} : dials i ds ≤ 1 ↔
    ∀ n m, owner? ds n = some i → owner? ds m = some i → n = m := by
  induction ds with
  | nil => simp [dials, owner?]
  | cons d ds ih =>
    have count : dials i (d :: ds) = dials i ds + if d.inst = i then 1 else 0 := by
      unfold dials
      rw [List.countP_cons]
      simp
    rw [count]
    by_cases hd : d.inst = i
    · have head : owner? (d :: ds) 0 = some i := congrArg some hd
      rw [if_pos hd]
      constructor
      · intro hle n m hn hm
        have none_later := dials_eq_zero.mp (show dials i ds = 0 by omega)
        cases n with
        | zero =>
          cases m with
          | zero => rfl
          | succ m => exact absurd hm (none_later m)
        | succ n => exact absurd hn (none_later n)
      · intro h
        have none_later : dials i ds = 0 := dials_eq_zero.mpr fun n hn => by
          cases h 0 (n + 1) head hn
        omega
    · have head : owner? (d :: ds) 0 ≠ some i := fun h => hd (Option.some.inj h)
      rw [if_neg hd, Nat.add_zero, ih]
      constructor
      · intro h n m hn hm
        cases n with
        | zero => exact absurd hn head
        | succ n =>
          cases m with
          | zero => exact absurd hm head
          | succ m => rw [h n m hn hm]
      · intro h n m hn hm
        exact Nat.succ.inj (h (n + 1) (m + 1) hn hm)

/-- The layers of an endpoint do not tell whose it is. -/
theorem owner?_modify (ds : List Dialled) (n m : Nat) (f : Chain → Chain) :
    owner? (ds.modify n fun d => { d with chain := f d.chain }) m = owner? ds m := by
  unfold owner?
  rw [List.getElem?_modify]
  cases ds[m]? with
  | none => rfl
  | some d =>
    simp only [Option.map_eq_map, Option.map_some]
    split <;> rfl

theorem dials_modify (i : Instance) (ds : List Dialled) (n : Nat) (f : Chain → Chain) :
    dials i (ds.modify n fun d => { d with chain := f d.chain }) = dials i ds := by
  unfold dials
  induction ds generalizing n with
  | nil => simp
  | cons d ds ih =>
    cases n with
    | zero => simp [List.countP_cons]
    | succ n => simp [List.countP_cons, ih n]

variable {config : EndpointConfig} {op : Operation}

/-- Every rate of 32 bits makes the layers of an instance. -/
theorem exists_chain (hr : config.rate < UInt32.size) (op : Operation) (i : Instance) :
    ∃ c, chain config op i = .ok c := by
  unfold chain
  by_cases h : config.rate = 0
  · rw [if_pos h]
    exact ⟨_, rfl⟩
  · obtain ⟨quota, hq⟩ := Quota.exists_perSecond hr
    rw [if_neg h, hq]
    exact ⟨_, rfl⟩

theorem run_dial_undialable {i : Instance} (h : dialable i = false) (ds : List Dialled) :
    (dial config op i).run ds = ⟨.ok (.error (undialled i)), ds, []⟩ := by
  unfold dialable at h
  unfold dial
  simp only [h]
  rfl

theorem run_dial {i : Instance} {c : Chain} (h : dialable i = true)
    (hc : chain config op i = .ok c) (ds : List Dialled) :
    (dial config op i).run ds = ⟨.ok (.ok ds.length), ds ++ [⟨i, c⟩], []⟩ := by
  unfold dialable at h
  unfold dial
  simp only [h, hc]
  rfl

/-! ## One instance of a list -/

/-- What the next instance of a list does to a set under way and to what was dialled. -/
inductive Next (config : EndpointConfig) (op : Operation) (r : Rebuild Nat) (ds : List Dialled)
    (j : Instance) : Rebuild Nat → List Dialled → Prop
  | kept {b : Built Nat} : kept? r.previous j = some b →
    Next config op r ds j ((r.without j).add b) ds
  | made {c : Chain} : kept? r.previous j = none → dialable j = true →
    chain config op j = .ok c →
    Next config op r ds j ((r.without j).add ⟨j, ds.length⟩) (ds ++ [⟨j, c⟩])
  | failed : kept? r.previous j = none → dialable j = false → Next config op r ds j (r.without j) ds

variable {r r' : Rebuild Nat} {ds ds' : List Dialled} {i j : Instance}

theorem run_next (hr : config.rate < UInt32.size) (service : String) (r : Rebuild Nat)
    (ds : List Dialled) (j : Instance) :
    ∃ r' ds' notes, (Rebuild.next service (dial config op) r j).run ds = ⟨.ok r', ds', notes⟩ ∧
      Next config op r ds j r' ds' := by
  cases hb : kept? r.previous j with
  | some b =>
    exact ⟨_, _, _, Rebuild.next_kept service (dial config op) hb ds, .kept hb⟩
  | none =>
    cases hj : dialable j with
    | true =>
      obtain ⟨c, hc⟩ := exists_chain hr op j
      obtain ⟨notes, hrun⟩ := Rebuild.next_made service (dial config op) hb (run_dial hj hc ds)
      exact ⟨_, _, notes, hrun, .made hb hj hc⟩
    | false =>
      obtain ⟨notes, hrun⟩ :=
        Rebuild.next_failed service (dial config op) hb (run_dial_undialable hj ds)
      exact ⟨_, _, notes, hrun, .failed hb hj⟩

/-! ## What a list does -/

/-- The first of a list with the id of an instance. -/
def first? (i : Instance) (is : List Instance) : Option Instance := is.find? (·.id = i.id)

/-- The last of a list with the id of an instance that can be dialled. -/
def last? (i : Instance) (is : List Instance) : Option Instance :=
  is.findRev? fun j => decide (j.id = i.id) && dialable j

/-- Every endpoint was made for the instance that it is held for. -/
def Genuine (ds : List Dialled) (bs : List (Built Nat)) : Prop :=
  ∀ b ∈ bs, owner? ds b.endpoint = some b.inst ∧ dialable b.inst = true

/-- Whether what an instance had is still there for it. -/
def holds (i : Instance) (bs : List (Built Nat)) : Bool := (kept? bs i).isSome

/-- What the instances of a list do, one after the other, to a set under way and to what was
dialled. -/
structure Passed (config : EndpointConfig) (op : Operation) (is : List Instance) (r : Rebuild Nat)
    (ds : List Dialled) (r' : Rebuild Nat) (ds' : List Dialled) : Prop where
  appended : ∃ more, ds' = ds ++ more ∧ ∀ d ∈ more, chain config op d.inst = .ok d.chain
  genuine : Genuine ds' r'.cache
  /-- Every instance that can be dialled is shown an endpoint of its own. -/
  shown : ∃ es, r'.endpoints = r.endpoints ++ es ∧
    es.map (owner? ds') = (is.filter dialable).map some
  /-- An instance is dialled as often as it is listed, once less if it stands first of its id and
  what it had is there. -/
  dialled : ∀ i, dialable i = true →
    dials i ds' + (if holds i r.previous = true ∧ first? i is = some i then 1 else 0) =
      dials i ds + is.count i
  /-- What is held under an id belongs to the last of a list with this id. -/
  held : ∀ i, holds i r'.cache = match last? i is with
    | some j => decide (j = i)
    | none => holds i r.cache

theorem Genuine.mono {bs : List (Built Nat)} (h : Genuine ds bs) (hp : ds <+: ds') :
    Genuine ds' bs := fun b hb => ⟨owner?_mono hp (h b hb).1, (h b hb).2⟩

theorem Genuine.filter {bs : List (Built Nat)} (h : Genuine ds bs) (p : Built Nat → Bool) :
    Genuine ds (bs.filter p) := fun b hb => h b (List.mem_filter.mp hb).1

theorem Genuine.add (h : Genuine ds r.cache) {b : Built Nat}
    (hb : owner? ds b.endpoint = some b.inst ∧ dialable b.inst = true) :
    Genuine ds (r.add b).cache := by
  intro c hc
  rcases List.mem_append.mp hc with hc | hc
  · exact h.filter _ c hc
  · obtain rfl := List.mem_singleton.mp hc
    exact hb

theorem Next.appended (h : Next config op r ds j r' ds') :
    ∃ more, ds' = ds ++ more ∧ ∀ d ∈ more, chain config op d.inst = .ok d.chain := by
  cases h with
  | kept _ => exact ⟨[], by simp, by simp⟩
  | made _ _ hc => exact ⟨_, rfl, by simpa using hc⟩
  | failed _ _ => exact ⟨[], by simp, by simp⟩

theorem Next.genuine (h : Next config op r ds j r' ds') (hp : Genuine ds r.previous)
    (hc : Genuine ds r.cache) : Genuine ds' r'.previous ∧ Genuine ds' r'.cache := by
  cases h with
  | kept hb => exact ⟨hp.filter _, Genuine.add hc (hp _ (of_kept? hb).1)⟩
  | @made c _ hj _ =>
    have more : ds <+: ds ++ [⟨j, c⟩] := List.prefix_append _ _
    exact ⟨(hp.mono more).filter _, Genuine.add (hc.mono more) ⟨owner?_snoc ds _, hj⟩⟩
  | failed _ _ => exact ⟨hp.filter _, hc⟩

/-- The endpoint that an instance is shown. -/
theorem Next.shown (h : Next config op r ds j r' ds') (hp : Genuine ds r.previous) :
    ∃ es, r'.endpoints = r.endpoints ++ es ∧
      es.map (owner? ds') = ([j].filter dialable).map some := by
  cases h with
  | @kept b hb =>
    obtain ⟨howner, hdial⟩ := hp _ (of_kept? hb).1
    have hj := (of_kept? hb).2
    rw [hj] at howner hdial
    exact ⟨[b.endpoint], rfl, by simp [howner, hdial]⟩
  | @made c _ hj _ => exact ⟨[ds.length], rfl, by simp [owner?_snoc, hj]⟩
  | failed _ hj => exact ⟨[], by simp [Rebuild.without], by simp [hj]⟩

/-- What an instance had is there for it until a namesake comes by. -/
theorem Next.previous (h : Next config op r ds j r' ds') :
    holds i r'.previous = (decide (j.id ≠ i.id) && holds i r.previous) := by
  have after : r'.previous = r.previous.filter (·.inst.id != j.id) := by
    cases h <;> rfl
  unfold holds
  rw [after]
  by_cases hid : j.id = i.id
  · rw [kept?_filter_same hid]
    simp [hid]
  · rw [kept?_filter_ne (Ne.symm hid)]
    simp [hid]

theorem Next.dials (h : Next config op r ds j r' ds') (hi : dialable i = true) :
    Link.dials i ds' = Link.dials i ds + if j = i ∧ holds i r.previous = false then 1 else 0 := by
  cases h with
  | kept hb =>
    by_cases hj : j = i
    · subst hj
      simp [holds, hb]
    · simp [hj]
  | made hb _ _ =>
    rw [dials_snoc]
    by_cases hj : j = i
    · subst hj
      simp [holds, hb]
    · simp [hj]
  | failed _ hj =>
    have other : j ≠ i := by
      rintro rfl
      rw [hi] at hj
      cases hj
    simp [other]

theorem holds_add {b : Built Nat} : holds i (r.add b).cache =
    if b.inst.id = i.id then decide (b.inst = i) else holds i r.cache := by
  unfold holds
  by_cases hid : b.inst.id = i.id
  · rw [Rebuild.kept?_add_same hid, if_pos hid]
    by_cases hi : b.inst = i <;> simp [hi]
  · rw [Rebuild.kept?_add_other hid, if_neg hid]

theorem Next.held (h : Next config op r ds j r' ds') (hp : Genuine ds r.previous) (i : Instance) :
    holds i r'.cache =
      if j.id = i.id ∧ dialable j = true then decide (j = i) else holds i r.cache := by
  cases h with
  | @kept b hb =>
    have hdial := (hp _ (of_kept? hb).1).2
    have hj := (of_kept? hb).2
    rw [holds_add, hj]
    rw [hj] at hdial
    simp [hdial, Rebuild.without]
  | made _ hj _ =>
    rw [holds_add]
    simp [hj, Rebuild.without]
  | failed _ hj => simp [hj, Rebuild.without]

theorem Passed.nil (hc : Genuine ds r.cache) : Passed config op [] r ds r ds where
  appended := ⟨[], by simp, by simp⟩
  genuine := hc
  shown := ⟨[], by simp, rfl⟩
  dialled := by simp [first?]
  held := fun _ => rfl

theorem Passed.cons {is : List Instance} {r₁ : Rebuild Nat} {ds₁ : List Dialled}
    (first : Next config op r ds j r₁ ds₁) (hp : Genuine ds r.previous)
    (rest : Passed config op is r₁ ds₁ r' ds') : Passed config op (j :: is) r ds r' ds' where
  appended := by
    obtain ⟨one, rfl, hone⟩ := first.appended
    obtain ⟨more, rfl, hmore⟩ := rest.appended
    refine ⟨one ++ more, by simp, ?_⟩
    intro d hd
    exact (List.mem_append.mp hd).elim (hone d) (hmore d)
  genuine := rest.genuine
  shown := by
    obtain ⟨es₁, hends₁, howners₁⟩ := first.shown hp
    obtain ⟨es, hends, howners⟩ := rest.shown
    obtain ⟨more, hds, -⟩ := rest.appended
    -- What is dialled later does not change whose the endpoints so far are.
    have onward : es₁.map (owner? ds') = es₁.map (owner? ds₁) := by
      apply List.map_congr_left
      intro e he
      have hsome : owner? ds₁ e ∈ ([j].filter dialable).map some := by
        rw [← howners₁]
        exact List.mem_map_of_mem he
      obtain ⟨k, -, hk⟩ := List.mem_map.mp hsome
      rw [← hk]
      exact owner?_mono ⟨more, hds.symm⟩ hk.symm
    refine ⟨es₁ ++ es, by rw [hends, hends₁, List.append_assoc], ?_⟩
    rw [List.map_append, onward, howners₁, howners, ← List.map_append, ← List.filter_append]
    rfl
  dialled := by
    intro i hi
    have later := rest.dialled i hi
    have now := first.dials hi
    rw [first.previous] at later
    -- A namesake takes what the instance had off the old set, whether it keeps it or not.
    by_cases hid : j.id = i.id
    · by_cases hj : j = i
      · subst hj
        cases hold : holds j r.previous
        · simp [first?, hold] at later now ⊢
          omega
        · simp [first?, hold] at later now ⊢
          omega
      · simp [first?, hid, hj] at later now ⊢
        omega
    · have hj : j ≠ i := by
        rintro rfl
        exact hid rfl
      simp [first?, hid, hj] at later now ⊢
      omega
  held := by
    intro i
    rw [rest.held i, first.held hp i]
    unfold last?
    rw [List.findRev?]
    cases is.findRev? (fun j => decide (j.id = i.id) && dialable j) with
    | some k => rfl
    | none =>
      by_cases hj : j.id = i.id ∧ dialable j = true
      · simp [hj]
      · have other : (decide (j.id = i.id) && dialable j) = false := by simpa using hj
        rw [if_neg hj, other]
        rfl

theorem run_foldlM (hr : config.rate < UInt32.size) (service : String) (is : List Instance)
    (hp : Genuine ds r.previous) (hc : Genuine ds r.cache) :
    ∃ r' ds' notes, (is.foldlM (Rebuild.next service (dial config op)) r).run ds =
        ⟨.ok r', ds', notes⟩ ∧ Passed config op is r ds r' ds' := by
  induction is generalizing r ds with
  | nil => exact ⟨r, ds, [], rfl, .nil hc⟩
  | cons j is ih =>
    obtain ⟨r₁, ds₁, notes₁, hfirst, first⟩ := run_next hr service r ds j
    obtain ⟨hp₁, hc₁⟩ := first.genuine hp hc
    obtain ⟨r', ds', notes, hrest, rest⟩ := ih hp₁ hc₁
    rw [List.foldlM_cons, Act.run_bind_ok hfirst, hrest]
    exact ⟨r', ds', _, rfl, .cons first hp rest⟩

/-! ## A whole list -/

/-- What a rebuild of a set for a list makes of the endpoints and of what was dialled. -/
structure Rebuilt (config : EndpointConfig) (op : Operation) (is : List Instance)
    (s : EndpointSet Nat) (ds : List Dialled) (s' : EndpointSet Nat) (ds' : List Dialled) :
    Prop where
  seen : s'.seen = s.seen
  appended : ∃ more, ds' = ds ++ more ∧ ∀ d ∈ more, chain config op d.inst = .ok d.chain
  genuine : Genuine ds' s'.cache
  shown : s'.endpoints.map (owner? ds') = (is.filter dialable).map some
  dialled : ∀ i, dialable i = true →
    dials i ds' + (if holds i s.cache = true ∧ first? i is = some i then 1 else 0) =
      dials i ds + is.count i
  held : ∀ i, holds i s'.cache = decide (last? i is = some i)

theorem run_rebuild (op : Operation) (hr : config.rate < UInt32.size) (is : List Instance)
    {s : EndpointSet Nat} (h : Genuine ds s.cache) :
    ∃ s' ds' notes, (EndpointSet.rebuild (dial config op) is s).run ds = ⟨.ok s', ds', notes⟩ ∧
      Rebuilt config op is s ds s' ds' := by
  have nothing : Genuine ds ([] : List (Built Nat)) := by simp [Genuine]
  obtain ⟨r', ds', notes, hrun, passed⟩ :=
    run_foldlM (r := ⟨s.cache, [], []⟩) hr s.service is h nothing
  obtain ⟨es, hends, howners⟩ := passed.shown
  unfold EndpointSet.rebuild
  rw [Act.run_bind_ok hrun, Act.run_bind_ok (Act.run_note _ _)]
  refine ⟨_, ds', _, rfl, ?_⟩
  exact
    { seen := rfl
      appended := passed.appended
      genuine := passed.genuine
      shown := by
        rw [List.nil_append] at hends
        rw [hends, howners]
      dialled := passed.dialled
      held := by
        intro i
        rw [passed.held i]
        cases last? i is with
        | none => rfl
        | some j => simp }

end Link

end ServiceMesh
