-- The endpoint of an instance that every list names: whether it stays the one that
-- was made for it first. What else a list says matters only through the ids.
import Mathlib.Data.List.Chain
import ServiceMesh.Proofs.Gateway.Dialling
import ServiceMesh.Proofs.Gateway.Relay

namespace ServiceMesh.Link

/-! ## A link in use -/

/-- What happens to a link. -/
inductive Event where
  | publish (is : List Instance)
  | pick
  /-- A call at an endpoint takes a step; the layers and the time come to this. -/
  | touch (n : Nat) (g : Guard)

def step (rules : GatewayRules) (op : Operation) (l : Link) : Event → Link
  | .publish is => { l with backends := l.backends.publish is }
  | .pick => ((pick rules op).run l).state
  | .touch n g => l.putGuard n g

def after (rules : GatewayRules) (op : Operation) (l : Link) (events : List Event) : Link :=
  events.foldl (step rules op) l

/-- A link that has looked for instances for the first time. -/
def opened (rules : GatewayRules) (op : Operation) (now : Moment) (initial : List Instance) :
    Link :=
  ((begin rules.endpoint op initial).run (idle op now)).state

/-! ## Calls at an endpoint -/

/-- Whatever an act does to a link, it does at one endpoint. -/
def Touches {α : Type} (rules : GatewayRules) (op : Operation) (n : Nat) (a : Act Link α) : Prop :=
  ∀ l, ∃ gs : List Guard, (a.run l).state = after rules op l (gs.map (.touch n))

section Calls

variable {α β : Type} {rules : GatewayRules} {op : Operation} {n : Nat}

theorem touches_pure (x : α) : Touches rules op n (pure x) := fun _ => ⟨[], rfl⟩

theorem touches_get : Touches rules op n Act.get := fun _ => ⟨[], rfl⟩

theorem touches_bind {a : Act Link α} {f : α → Act Link β} (ha : Touches rules op n a)
    (hf : ∀ x, Touches rules op n (f x)) : Touches rules op n (a >>= f) := by
  intro l
  obtain ⟨gs, hgs⟩ := ha l
  rw [Act.run_bind]
  match hrun : a.run l with
  | ⟨.error c, l₁, notes⟩ =>
    rw [hrun] at hgs
    exact ⟨gs, hgs⟩
  | ⟨.ok x, l₁, notes⟩ =>
    rw [hrun] at hgs
    simp only at hgs
    obtain ⟨gs', hgs'⟩ := hf x l₁
    refine ⟨gs ++ gs', ?_⟩
    rw [List.map_append]
    unfold after at hgs hgs' ⊢
    rw [List.foldl_append, ← hgs]
    exact hgs'

theorem touches_on (a : Act Guard α) : Touches rules op n (a.on (guard n) (putGuard n)) := by
  intro l
  match hrun : a.run (guard n l) with
  | ⟨x, g, notes⟩ =>
    rw [Act.run_on hrun]
    exact ⟨[g], rfl⟩

/-- Time that passes leaves the layers as they are. -/
theorem touches_advance (millis : Nat) : Touches rules op n (advance millis) := by
  intro l
  let now : Moment := { l.now with millis := l.now.millis + millis }
  have same : (l.dialled.modify n fun d => { d with chain := (guard n l).chain }) = l.dialled := by
    apply List.ext_getElem?
    intro m
    rw [List.getElem?_modify]
    by_cases hm : n = m
    · subst hm
      unfold guard
      cases l.dialled[n]? <;> simp
    · simp [hm]
  refine ⟨[⟨(guard n l).chain, now⟩], ?_⟩
  change { l with now } = l.putGuard n ⟨(guard n l).chain, now⟩
  unfold putGuard
  rw [same]

/-- A call at an endpoint does nothing to a link but at this endpoint. -/
theorem touches_call (remote : Remote) (r : op.Request) (n remaining : Nat) :
    Touches rules op n (call remote op r n remaining) := by
  have given_up : Touches rules op n (call.giveUp op n remaining) :=
    touches_bind (touches_advance _) fun _ => touches_bind (touches_on _) fun _ =>
      touches_pure _
  unfold call
  refine touches_bind (touches_on _) fun entered => ?_
  cases entered with
  | error f => exact touches_pure _
  | ok _ =>
    refine touches_bind touches_get fun l => ?_
    simp only
    split
    · split
      · exact touches_bind (touches_advance _) fun _ => touches_bind (touches_on _) fun _ =>
          touches_pure _
      · exact given_up
    · exact given_up

end Calls

/-! ## What is heard -/

/-- What has been published last, whether it is still to be read, and what was read last. -/
structure Heard where
  latest : List Instance
  news : Bool
  read : List Instance

namespace Heard

def step (h : Heard) : Event → Heard
  | .publish is => ⟨is, true, h.read⟩
  | .pick => ⟨h.latest, false, if h.news then h.latest else h.read⟩
  | .touch _ _ => h

/-- The list that an event leads to being read, if it does. -/
def reads (h : Heard) : Event → List (List Instance)
  | .pick => if h.news then [h.latest] else []
  | _ => []

/-- The lists that are read in the course of events, in order. -/
def readings : Heard → List Event → List (List Instance)
  | _, [] => []
  | h, e :: events => h.reads e ++ (h.step e).readings events

end Heard

/-- The layers of an endpoint after events, as the calls at this endpoint leave them. -/
def layersAfter (n : Nat) (c : Chain) (events : List Event) : Chain :=
  events.foldl (fun c e => match e with
    | .touch m g => if m = n then g.chain else c
    | _ => c) c

/-- An instance has one endpoint, which was made for it once; these are its layers. -/
structure HasOne (i : Instance) (n : Nat) (layers : Chain) (l : Link) : Prop where
  here : l.dialled[n]? = some ⟨i, layers⟩
  only : ∀ m, owner? l.dialled m = some i → m = n
  shown : n ∈ l.backends.set.endpoints

/-- Between two lists that are read, an instance passes on its endpoint: it is in the new one
once, it was the last of its id in the old one that can be dialled, and is the first of its id in
the new one. -/
structure PassesOn (i : Instance) (old new : List Instance) : Prop where
  once : new.count i = 1
  last : last? i old = some i
  first : first? i new = some i

/-! ## Orders -/

/-- How often an instance is dialled for a list, after one that was read before. -/
def asks (i : Instance) (old new : List Instance) : Nat :=
  new.count i - if last? i old = some i ∧ first? i new = some i then 1 else 0

def asksAll (i : Instance) : List Instance → List (List Instance) → Nat
  | _, [] => 0
  | old, new :: rest => asks i old new + asksAll i new rest

variable {i : Instance}

theorem count_pos_of_first? {is : List Instance} (h : first? i is = some i) : 0 < is.count i :=
  List.count_pos_iff.mpr (List.mem_of_find?_eq_some h)

theorem asks_eq_zero {old new : List Instance} (h : i ∈ new) :
    asks i old new = 0 ↔ PassesOn i old new := by
  have listed : 0 < new.count i := List.count_pos_iff.mpr h
  unfold asks
  constructor
  · intro hzero
    by_cases hpass : last? i old = some i ∧ first? i new = some i
    · rw [if_pos hpass] at hzero
      exact ⟨by omega, hpass.1, hpass.2⟩
    · rw [if_neg hpass] at hzero
      omega
  · rintro ⟨honce, hlast, hfirst⟩
    rw [if_pos ⟨hlast, hfirst⟩, honce]

/-- Nothing is dialled again exactly if every list passes the endpoint on to the next. -/
theorem asksAll_eq_zero {old : List Instance} {lists : List (List Instance)}
    (h : ∀ is ∈ lists, i ∈ is) :
    asksAll i old lists = 0 ↔ List.IsChain (PassesOn i) (old :: lists) := by
  induction lists generalizing old with
  | nil => simp [asksAll]
  | cons new rest ih =>
    have later : asksAll i new rest = 0 ↔ List.IsChain (PassesOn i) (new :: rest) :=
      ih fun is his => h is (List.mem_cons_of_mem _ his)
    unfold asksAll
    rw [List.isChain_cons_cons, ← later, ← asks_eq_zero (h new (by simp)), Nat.add_eq_zero_iff]

/-- An instance is named once, and no other has its id. -/
structure Unshared (i : Instance) (is : List Instance) : Prop where
  once : is.count i = 1
  alone : ∀ j ∈ is, j.id = i.id → j = i

/-- Lists that name an instance once, and no other of its id, pass its endpoint on. -/
theorem Unshared.passesOn {old new : List Instance} (hi : dialable i = true)
    (hold : Unshared i old) (hnew : Unshared i new) : PassesOn i old new where
  once := hnew.once
  last := by
    unfold last?
    rw [List.findRev?_eq_find?_reverse]
    cases hfind : old.reverse.find? fun j => decide (j.id = i.id) && dialable j with
    | none =>
      have listed : i ∈ old := List.count_pos_iff.mp (by have := hold.once; omega)
      have missed := List.find?_eq_none.mp hfind i (List.mem_reverse.mpr listed)
      simp [hi] at missed
    | some j =>
      have listed := List.mem_reverse.mp (List.mem_of_find?_eq_some hfind)
      have same : j.id = i.id := by
        have found := List.find?_some hfind
        simp only [Bool.and_eq_true, decide_eq_true_eq] at found
        exact found.1
      rw [hold.alone j listed same]
  first := by
    have listed : i ∈ new := List.count_pos_iff.mp (by have := hnew.once; omega)
    unfold first?
    cases hfind : new.find? fun j => decide (j.id = i.id) with
    | none =>
      have missed := List.find?_eq_none.mp hfind i listed
      simp at missed
    | some j =>
      have same : j.id = i.id := by simpa using List.find?_some hfind
      rw [hnew.alone j (List.mem_of_find?_eq_some hfind) same]

theorem isChain_of_unshared {lists : List (List Instance)} (hi : dialable i = true)
    (h : ∀ is ∈ lists, Unshared i is) : List.IsChain (PassesOn i) lists := by
  induction lists with
  | nil => exact List.isChain_nil
  | cons old rest ih =>
    cases rest with
    | nil => exact List.isChain_singleton _
    | cons new rest =>
      refine List.isChain_cons_cons.mpr ⟨?_, ih fun is his => h is (List.mem_cons_of_mem _ his)⟩
      exact Unshared.passesOn hi (h old (by simp)) (h new (by simp))

/-! ## A link and what it has heard -/

/-- A link of an open feed, with what it has heard. -/
structure Follows (h : Heard) (l : Link) : Prop where
  open_feed : l.backends.feed.isOpen = true
  instances : l.backends.feed.instances = h.latest
  seen_le : l.backends.set.seen ≤ l.backends.feed.version
  news_iff : h.news = true ↔ l.backends.set.seen ≠ l.backends.feed.version
  genuine : Genuine l.dialled l.backends.set.cache
  shown : l.backends.set.endpoints.map (owner? l.dialled) = (h.read.filter dialable).map some
  held : ∀ i, holds i l.backends.set.cache = decide (last? i h.read = some i)

variable {rules : GatewayRules} {op : Operation} {h : Heard} {l : Link}

/-- What an event does to a link that follows what it hears: instances are dialled for the lists
that are read and for nothing else, and endpoints keep their layers but for the calls at them. -/
structure Moved (h : Heard) (l : Link) (events : List Event) (h' : Heard) (l' : Link) : Prop where
  follows : Follows h' l'
  dialled : ∀ i, dialable i = true →
    dials i l'.dialled = dials i l.dialled + asksAll i h.read (h.readings events)
  layers : ∀ (n : Nat) (i : Instance) (c : Chain), l.dialled[n]? = some ⟨i, c⟩ →
    l'.dialled[n]? = some ⟨i, layersAfter n c events⟩

theorem Follows.publish (hl : Follows h l) (is : List Instance) :
    Follows ⟨is, true, h.read⟩ { l with backends := l.backends.publish is } where
  open_feed := hl.open_feed
  instances := rfl
  seen_le := Nat.le_succ_of_le hl.seen_le
  news_iff := by
    have hle := hl.seen_le
    have hne : l.backends.set.seen ≠ l.backends.feed.version + 1 := by omega
    exact ⟨fun _ => hne, fun _ => rfl⟩
  genuine := hl.genuine
  shown := hl.shown
  held := hl.held

theorem Follows.touch (hl : Follows h l) (n : Nat) (g : Guard) : Follows h (l.putGuard n g) where
  open_feed := hl.open_feed
  instances := hl.instances
  seen_le := hl.seen_le
  news_iff := hl.news_iff
  genuine := by
    intro b hb
    obtain ⟨howner, hdial⟩ := hl.genuine b hb
    exact ⟨(owner?_modify l.dialled n b.endpoint fun _ => g.chain).trans howner, hdial⟩
  shown := by
    rw [← hl.shown]
    apply List.map_congr_left
    intro e _
    exact owner?_modify l.dialled n e fun _ => g.chain
  held := hl.held

theorem run_atBackends {α : Type} {a : Act (Backends Nat × List Dialled) α}
    {x : Except Crash α} {b : Backends Nat} {ds : List Dialled} {notes : List Note}
    (ha : a.run (l.backends, l.dialled) = ⟨x, (b, ds), notes⟩) :
    (atBackends a).run l = ⟨x, { l with backends := b, dialled := ds }, notes⟩ := by
  unfold Act.run at ha
  unfold atBackends Act.on Act.run
  simp only [ha]

/-- A pick with nothing new leaves everything but the turn as it is. -/
theorem Follows.pick_again (rules : GatewayRules) (op : Operation) (hl : Follows h l)
    (hn : h.news = false) :
    ∃ x l' notes, (pick rules op).run l = ⟨.ok x, l', notes⟩ ∧ Follows h l' ∧
      l'.dialled = l.dialled := by
  have hseen : l.backends.set.seen = l.backends.feed.version := by
    by_contra hne
    rw [hl.news_iff.mpr hne] at hn
    cases hn
  have hread : (EndpointSet.read (dial rules.endpoint op) l.backends.feed l.backends.set).run
      l.dialled = ⟨.ok l.backends.set, l.dialled, []⟩ :=
    EndpointSet.read_of_not_news (by simp [hseen]) _
  obtain ⟨notes, hpick⟩ := Backends.pick_run hread
  refine ⟨_, _, notes, run_atBackends hpick, ?_, rfl⟩
  exact ⟨hl.open_feed, hl.instances, hl.seen_le, hl.news_iff, hl.genuine, hl.shown, hl.held⟩

/-- A pick with news reads the list. -/
theorem Follows.pick_news (op : Operation) (hr : rules.endpoint.rate < UInt32.size)
    (hl : Follows h l) (hn : h.news = true) :
    ∃ x l' notes, (pick rules op).run l = ⟨.ok x, l', notes⟩ ∧
      Follows ⟨h.latest, false, h.latest⟩ l' ∧ (∃ more, l'.dialled = l.dialled ++ more) ∧
      ∀ i, dialable i = true → dials i l'.dialled = dials i l.dialled + asks i h.read h.latest := by
  obtain ⟨s', ds', notes, hrun, rebuilt⟩ := run_rebuild op hr l.backends.feed.instances
    (s := { l.backends.set with seen := l.backends.feed.version }) hl.genuine
  have hread : (EndpointSet.read (dial rules.endpoint op) l.backends.feed l.backends.set).run
      l.dialled = ⟨.ok s', ds', notes⟩ := by
    unfold EndpointSet.read
    rw [if_pos ⟨hl.open_feed, Ne.symm (hl.news_iff.mp hn)⟩]
    exact hrun
  obtain ⟨notes', hpick⟩ := Backends.pick_run hread
  obtain ⟨more, happended, -⟩ := rebuilt.appended
  rw [hl.instances] at rebuilt
  refine ⟨_, _, notes', run_atBackends hpick, ?_, ⟨more, happended⟩, ?_⟩
  · exact
      { open_feed := hl.open_feed
        instances := hl.instances
        seen_le := Nat.le_of_eq rebuilt.seen
        news_iff := by simp [rebuilt.seen]
        genuine := rebuilt.genuine
        shown := rebuilt.shown
        held := rebuilt.held }
  · intro i hi
    have count := rebuilt.dialled i hi
    simp only [hl.held, decide_eq_true_eq] at count
    unfold asks
    by_cases hpass : last? i h.read = some i ∧ first? i h.latest = some i
    · have listed := count_pos_of_first? hpass.2
      rw [if_pos hpass] at count ⊢
      simp only
      omega
    · rw [if_neg hpass] at count ⊢
      exact count

theorem Moved.step (op : Operation) (hr : rules.endpoint.rate < UInt32.size)
    (hl : Follows h l) (e : Event) :
    Moved h l [e] (h.step e) (step rules op l e) := by
  cases e with
  | publish is => exact ⟨hl.publish is, fun _ _ => rfl, fun _ _ _ hn => hn⟩
  | pick =>
    cases hn : h.news with
    | true =>
      obtain ⟨x, l', notes, hrun, follows, ⟨more, happended⟩, hdials⟩ :=
        hl.pick_news op hr hn
      have after : Link.step rules op l .pick = l' := by
        unfold Link.step
        rw [hrun]
      rw [after]
      refine ⟨?_, ?_, ?_⟩
      · simpa [Heard.step, hn] using follows
      · intro i hi
        simpa [Heard.readings, Heard.reads, hn, asksAll] using hdials i hi
      · intro n i c hc
        rw [happended, List.getElem?_append_left (List.getElem?_eq_some_iff.mp hc).1]
        exact hc
    | false =>
      obtain ⟨x, l', notes, hrun, follows, hsame⟩ := hl.pick_again rules op hn
      have after : Link.step rules op l .pick = l' := by
        unfold Link.step
        rw [hrun]
      rw [after]
      refine ⟨?_, ?_, ?_⟩
      · have same : h.step .pick = h := by
          cases h
          simp_all [Heard.step]
        rw [same]
        exact follows
      · intro i hi
        simp [Heard.readings, Heard.reads, hn, asksAll, hsame]
      · intro n i c hc
        rw [hsame]
        exact hc
  | touch m g =>
    refine ⟨hl.touch m g, fun i _ => dials_modify i l.dialled m fun _ => g.chain, ?_⟩
    intro n i c hc
    unfold Link.step putGuard layersAfter
    simp only [List.getElem?_modify, hc]
    by_cases hm : m = n <;> simp [hm]

/-! ## Whole runs -/

def Heard.after (h : Heard) (events : List Event) : Heard := events.foldl Heard.step h

theorem asksAll_reads (i : Instance) (h : Heard) (e : Event) (events : List Event) :
    asksAll i h.read (h.readings (e :: events)) =
      asksAll i h.read (h.readings [e]) +
        asksAll i (h.step e).read ((h.step e).readings events) := by
  cases e with
  | publish is => simp [Heard.readings, Heard.reads, Heard.step, asksAll]
  | pick => cases hn : h.news <;> simp [Heard.readings, Heard.reads, Heard.step, asksAll, hn]
  | touch n g => simp [Heard.readings, Heard.reads, Heard.step, asksAll]

theorem Moved.after (op : Operation) (hr : rules.endpoint.rate < UInt32.size)
    (hl : Follows h l) (events : List Event) :
    Moved h l events (h.after events) (after rules op l events) := by
  induction events generalizing h l with
  | nil => exact ⟨hl, fun _ _ => rfl, fun _ _ _ hn => hn⟩
  | cons e events ih =>
    have first := Moved.step op hr hl e
    have rest := ih first.follows
    refine ⟨rest.follows, ?_, ?_⟩
    · intro i hi
      rw [asksAll_reads, ← Nat.add_assoc, ← first.dialled i hi]
      exact rest.dialled i hi
    · intro n i c hc
      exact rest.layers n i _ (first.layers n i c hc)

theorem Follows.exists_pick (op : Operation) (hr : rules.endpoint.rate < UInt32.size)
    (hl : Follows h l) :
    ∃ x, ((pick rules op).run l).result = .ok x := by
  cases hn : h.news with
  | true =>
    obtain ⟨x, l', notes, hrun, -⟩ := hl.pick_news op hr hn
    exact ⟨x, by rw [hrun]⟩
  | false =>
    obtain ⟨x, l', notes, hrun, -⟩ := hl.pick_again rules op hn
    exact ⟨x, by rw [hrun]⟩

/-- What was dialled by some moment is not undone later. -/
theorem dials_le_after (op : Operation) (hr : rules.endpoint.rate < UInt32.size)
    (hl : Follows h l) {past events : List Event} (hpast : past <+: events)
    (hi : dialable i = true) :
    dials i (after rules op l past).dialled ≤ dials i (after rules op l events).dialled := by
  obtain ⟨rest, rfl⟩ := hpast
  have before := Moved.after op hr hl past
  have onward := (Moved.after op hr before.follows rest).dialled i hi
  have whole : after rules op l (past ++ rest) = after rules op (after rules op l past) rest :=
    List.foldl_append
  rw [whole, onward]
  exact Nat.le_add_right _ _

/-- An instance that is in the list that was read last is shown an endpoint. -/
theorem Follows.exists_shown (hl : Follows h l) (hi : dialable i = true) (hread : i ∈ h.read) :
    ∃ n ∈ l.backends.set.endpoints, owner? l.dialled n = some i := by
  have listed : some i ∈ l.backends.set.endpoints.map (owner? l.dialled) := by
    rw [hl.shown]
    exact List.mem_map_of_mem (List.mem_filter.mpr ⟨hread, hi⟩)
  exact List.mem_map.mp listed

/-- An instance that every published list names. -/
def Named (i : Instance) (events : List Event) : Prop := ∀ is, .publish is ∈ events → i ∈ is

theorem named_heard {events : List Event} (hnamed : Named i events) (hlatest : i ∈ h.latest)
    (hread : i ∈ h.read) :
    i ∈ (h.after events).read ∧ ∀ is ∈ h.readings events, i ∈ is := by
  induction events generalizing h with
  | nil => exact ⟨hread, by simp [Heard.readings]⟩
  | cons e events ih =>
    have later : Named i events := fun is his => hnamed is (List.mem_cons_of_mem _ his)
    cases e with
    | publish is => exact ih later (hnamed is (by simp)) hread
    | pick =>
      cases hn : h.news with
      | true =>
        have rest := ih (h := ⟨h.latest, false, h.latest⟩) later hlatest hlatest
        simpa [Heard.after, Heard.step, Heard.readings, Heard.reads, hn, hlatest] using rest
      | false =>
        have rest := ih (h := ⟨h.latest, false, h.read⟩) later hlatest hread
        simpa [Heard.after, Heard.step, Heard.readings, Heard.reads, hn] using rest
    | touch n g => exact ih later hlatest hread

/-- A link begins with one rebuild, for the list that it finds. -/
theorem run_begin (op : Operation) (hr : rules.endpoint.rate < UInt32.size) (now : Moment)
    (initial : List Instance) :
    ∃ l notes, (begin rules.endpoint op initial).run (idle op now) = ⟨.ok (), l, notes⟩ ∧
      Follows ⟨initial, false, initial⟩ l ∧
      (∀ i, dialable i = true → dials i l.dialled = initial.count i) ∧
      ∀ d ∈ l.dialled, chain rules.endpoint op d.inst = .ok d.chain := by
  have nothing : Genuine ([] : List Dialled) ([] : List (Built Nat)) := by simp [Genuine]
  obtain ⟨s', ds', notes, hrun, rebuilt⟩ := run_rebuild op hr initial
    (s := { service := op.service.name, seen := 0 }) nothing
  have renewed : (Backends.begin (dial rules.endpoint op) initial).run
      ((idle op now).backends, (idle op now).dialled) =
        ⟨.ok (), (⟨{ instances := initial }, s', {}⟩, ds'), notes⟩ := by
    have renewed : (Backends.renew (dial rules.endpoint op) fun set feed =>
        EndpointSet.ofFeed set.service (dial rules.endpoint op) feed).run
        (⟨{ instances := initial }, { service := op.service.name }, {}⟩, []) =
          ⟨.ok (), (⟨{ instances := initial }, s', {}⟩, ds'), notes⟩ := Backends.run_renew hrun
    unfold Backends.begin idle Backends.none
    rw [Act.run_bind_ok (Act.run_modify _ _)]
    simp only
    rw [renewed]
    rfl
  refine ⟨_, notes, run_atBackends renewed, ?_, ?_, ?_⟩
  · exact
      { open_feed := rfl
        instances := rfl
        seen_le := Nat.le_of_eq rebuilt.seen
        news_iff := by simp [rebuilt.seen]
        genuine := rebuilt.genuine
        shown := rebuilt.shown
        held := rebuilt.held }
  · intro i hi
    have count := rebuilt.dialled i hi
    simpa [holds, EndpointSet.kept?, dials] using count
  · obtain ⟨more, happended, hfresh⟩ := rebuilt.appended
    rw [List.nil_append] at happended
    rw [happended]
    exact hfresh

section Keeping

variable {initial : List Instance} {events : List Event}

/-- One endpoint at the end means that nothing was dialled after the first time. -/
theorem passedOn_of_one (op : Operation) (hr : rules.endpoint.rate < UInt32.size)
    (hl : Follows ⟨initial, false, initial⟩ l)
    (hdials : ∀ i, dialable i = true → dials i l.dialled = initial.count i)
    (hi : dialable i = true) (hinitial : i ∈ initial) (hnamed : Named i events) {n : Nat}
    (only : ∀ m, owner? (after rules op l events).dialled m = some i → m = n) :
    initial.count i = 1 ∧ List.IsChain (PassesOn i)
      (initial :: Heard.readings ⟨initial, false, initial⟩ events) := by
  obtain ⟨-, hlists⟩ := named_heard (h := ⟨initial, false, initial⟩) hnamed hinitial hinitial
  have found : 0 < initial.count i := List.count_pos_iff.mpr hinitial
  have total := (Moved.after op hr hl events).dialled i hi
  rw [hdials i hi] at total
  simp only at total
  have once : dials i (after rules op l events).dialled ≤ 1 :=
    dials_le_one.mpr fun m m' hm hm' => (only m hm).trans (only m' hm').symm
  refine ⟨by omega, (asksAll_eq_zero hlists).mp ?_⟩
  omega

/-- What is not dialled again by the end is not dialled again at any moment before. -/
theorem hasOne_of_passedOn (op : Operation) (hr : rules.endpoint.rate < UInt32.size)
    (hl : Follows ⟨initial, false, initial⟩ l)
    (hdials : ∀ i, dialable i = true → dials i l.dialled = initial.count i)
    (hi : dialable i = true) (hinitial : i ∈ initial) (hnamed : Named i events)
    (honce : initial.count i = 1)
    (hchain : List.IsChain (PassesOn i)
      (initial :: Heard.readings ⟨initial, false, initial⟩ events))
    {n : Nat} {c : Chain} (hn : l.dialled[n]? = some ⟨i, c⟩) {past : List Event}
    (hpast : past <+: events) :
    HasOne i n (layersAfter n c past) (after rules op l past) := by
  obtain ⟨-, hlists⟩ := named_heard (h := ⟨initial, false, initial⟩) hnamed hinitial hinitial
  have nothing := (asksAll_eq_zero hlists).mpr hchain
  have total := (Moved.after op hr hl events).dialled i hi
  rw [hdials i hi] at total
  simp only at total
  have moved := Moved.after op hr hl past
  have here := moved.layers n i c hn
  have once : dials i (after rules op l past).dialled ≤ 1 := by
    have later := dials_le_after op hr hl hpast hi
    omega
  have mine : owner? (after rules op l past).dialled n = some i := by
    unfold owner?
    rw [here]
    rfl
  have only : ∀ m, owner? (after rules op l past).dialled m = some i → m = n :=
    fun m hm => dials_le_one.mp once m n hm mine
  refine ⟨here, only, ?_⟩
  have hnamed' : Named i past := fun is his => hnamed is (hpast.subset his)
  obtain ⟨hread, -⟩ := named_heard (h := ⟨initial, false, initial⟩) hnamed' hinitial hinitial
  obtain ⟨m, hm, hown⟩ := moved.follows.exists_shown hi hread
  rw [← only m hown]
  exact hm

end Keeping

/-- An instance that is named in every list keeps the endpoint that was made for it, with the
layers as its calls leave them, exactly if it is found once at first and every list that is read
passes it on to the next. So they do if the lists name it once and no other of its id. What a
call does to a link is an event of its endpoint. -/
theorem an_instance_keeps_its_endpoint_exactly_if_lists_pass_it_on
    (op : Operation) (hr : rules.endpoint.rate < UInt32.size) (now : Moment)
    (initial : List Instance) (events : List Event) (hi : dialable i = true)
    (hinitial : i ∈ initial) (hnamed : Named i events) :
    ((begin rules.endpoint op initial).run (idle op now)).result = .ok () ∧
      (∀ past, past <+: events → ∃ x,
        ((pick rules op).run (after rules op (opened rules op now initial) past)).result = .ok x) ∧
      ((∃ n c, chain rules.endpoint op i = .ok c ∧ ∀ past, past <+: events →
          HasOne i n (layersAfter n c past) (after rules op (opened rules op now initial) past)) ↔
        initial.count i = 1 ∧ List.IsChain (PassesOn i)
          (initial :: Heard.readings ⟨initial, false, initial⟩ events)) ∧
      ((∀ is ∈ initial :: Heard.readings ⟨initial, false, initial⟩ events, Unshared i is) →
        initial.count i = 1 ∧ List.IsChain (PassesOn i)
          (initial :: Heard.readings ⟨initial, false, initial⟩ events)) ∧
      ∀ (remote : Remote) (r : op.Request) (n remaining : Nat),
        Touches rules op n (call remote op r n remaining) := by
  obtain ⟨l, notes, hrun, hl, hdials, hfresh⟩ := run_begin op hr now initial
  have start : opened rules op now initial = l := by
    unfold opened
    rw [hrun]
  rw [start]
  refine ⟨by rw [hrun], ?_, ⟨?_, ?_⟩, ?_,
    fun remote r n remaining => touches_call remote r n remaining⟩
  · intro past _
    exact (Moved.after op hr hl past).follows.exists_pick op hr
  · rintro ⟨n, c, -, hall⟩
    exact passedOn_of_one op hr hl hdials hi hinitial hnamed (hall events (List.prefix_refl _)).only
  · rintro ⟨honce, hchain⟩
    have first : 0 < dials i l.dialled := by
      rw [hdials i hi]
      exact List.count_pos_iff.mpr hinitial
    obtain ⟨⟨j, c⟩, hd, hj⟩ := List.countP_pos_iff.mp first
    obtain rfl : j = i := of_decide_eq_true hj
    obtain ⟨n, hn⟩ := List.mem_iff_getElem?.mp hd
    exact ⟨n, c, hfresh _ hd, fun past hpast =>
      hasOne_of_passedOn op hr hl hdials hi hinitial hnamed honce hchain hn hpast⟩
  · intro hall
    exact ⟨(hall initial (by simp)).once, isChain_of_unshared hi hall⟩

/-! ## Two instances of one id -/

def twin (port : Nat) : Instance := ⟨"a", "addsvc", "localhost", port, none, []⟩

def other : Instance := ⟨"b", "addsvc", "localhost", 3, none, []⟩

def narrow : GatewayRules := ⟨⟨1, 1, 30⟩, ⟨3, Span.ofMillis 5000⟩, [], 0⟩

/-- The layers of the first twin, when they are new. -/
def fresh : Chain :=
  [.limiter ⟨⟨1, 1000000000⟩, none⟩, .breaker (breaker narrow.endpoint .sum (twin 1))]

/-- The same after a call that has failed. -/
def tripped : Chain :=
  [.limiter ⟨⟨1, 1000000000⟩, some 2000000000⟩,
    .breaker { breaker narrow.endpoint .sum (twin 1) with circuit := .opened 30000 }]

/-- The last of two twins is the first of its id when another instance takes the place of its
twin. -/
def parted : List Event :=
  [.touch 1 ⟨tripped, ⟨0, 2⟩⟩, .publish [twin 1, other], .pick]

theorem a_twin_keeps_its_open_breaker :
    narrow.endpoint.rate < UInt32.size ∧ dialable (twin 1) = true ∧ Named (twin 1) parted ∧
      ∃ n c, chain narrow.endpoint .sum (twin 1) = .ok c ∧ ∀ past, past <+: parted →
        HasOne (twin 1) n (layersAfter n c past)
          (after narrow .sum (opened narrow .sum ⟨0, 0⟩ [twin 2, twin 1]) past) := by
  have hr : narrow.endpoint.rate < UInt32.size := by decide
  have hi : dialable (twin 1) = true := by decide +kernel
  have hnamed : Named (twin 1) parted := by simp [Named, parted]
  refine ⟨hr, hi, hnamed, ?_⟩
  have law := an_instance_keeps_its_endpoint_exactly_if_lists_pass_it_on .sum hr ⟨0, 0⟩
    [twin 2, twin 1] parted hi (by simp) hnamed
  apply law.2.2.1.mpr
  have passes : PassesOn (twin 1) [twin 2, twin 1] [twin 1, other] :=
    ⟨by decide +kernel, by decide +kernel, by decide +kernel⟩
  exact ⟨by decide +kernel, List.isChain_cons_cons.mpr ⟨passes, List.isChain_singleton _⟩⟩

/-- A call fails at the endpoint of the first twin, and another instance joins the two. -/
def joined : List Event :=
  [.touch 0 ⟨tripped, ⟨0, 2⟩⟩, .publish [twin 1, twin 2, other], .pick]

/-- Both twins get new endpoints when another instance joins them, although every list names them
as before: the open breaker of the first is gone. -/
theorem a_namesake_closes_an_open_breaker :
    dialable (twin 1) = true ∧ Named (twin 1) joined ∧
      (after narrow .sum (opened narrow .sum ⟨0, 0⟩ [twin 1, twin 2]) joined).dialled[0]? =
        some ⟨twin 1, tripped⟩ ∧
      (after narrow .sum (opened narrow .sum ⟨0, 0⟩ [twin 1, twin 2]) joined).dialled[2]? =
        some ⟨twin 1, fresh⟩ ∧
      (after narrow .sum (opened narrow .sum ⟨0, 0⟩ [twin 1, twin 2])
        joined).backends.set.endpoints = [2, 3, 4] ∧
      ¬ ∃ n c, chain narrow.endpoint .sum (twin 1) = .ok c ∧ ∀ past, past <+: joined →
        HasOne (twin 1) n (layersAfter n c past)
          (after narrow .sum (opened narrow .sum ⟨0, 0⟩ [twin 1, twin 2]) past) := by
  have first : (after narrow .sum (opened narrow .sum ⟨0, 0⟩ [twin 1, twin 2])
      joined).dialled[0]? = some ⟨twin 1, tripped⟩ := by decide +kernel
  have third : (after narrow .sum (opened narrow .sum ⟨0, 0⟩ [twin 1, twin 2])
      joined).dialled[2]? = some ⟨twin 1, fresh⟩ := by decide +kernel
  refine ⟨by decide +kernel, by simp [Named, joined], first, third, by decide +kernel, ?_⟩
  rintro ⟨n, c, -, hall⟩
  have only := (hall joined (List.prefix_refl _)).only
  have hfirst := only 0 (congrArg (Option.map Dialled.inst) first)
  have hthird := only 2 (congrArg (Option.map Dialled.inst) third)
  omega

end ServiceMesh.Link
