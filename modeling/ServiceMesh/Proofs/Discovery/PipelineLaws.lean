-- The law of a parked watch: what is published is what is registered and passing,
-- and a pick then finds an endpoint of such an instance, or there is none.
import ServiceMesh.Proofs.Discovery.Following
import ServiceMesh.Proofs.Discovery.Rebuild

namespace ServiceMesh

namespace Pipeline

variable {κ τ : Type} {factory : Factory τ κ}

/-! ## The endpoints in step -/

/-- What keeps the endpoints in step with the feed. -/
structure Serving (factory : Factory τ κ) (t : Pipeline κ τ) : Prop where
  sound : t.set.Sound factory
  keeps : t.set.Keeps factory t.watch.feed
  seen_le : t.set.seen ≤ t.watch.feed.version

theorem serving_fresh (service : String) (wait : Nat) (workshop : τ) :
    Serving factory (fresh service wait workshop) where
  sound := ⟨rfl, by simp [fresh]⟩
  keeps := fun _ => ⟨List.Sublist.refl _, by simp [fresh]⟩
  seen_le := Nat.le_refl _

/-- What is published is news to the endpoints. -/
theorem serving_publish {t t' : Pipeline κ τ} (v : Serving factory t) (hset : t'.set = t.set)
    (hfeed : t'.watch.feed = t.watch.feed ∨ ∃ is, t'.watch.feed = t.watch.feed.publish is) :
    Serving factory t' := by
  rcases hfeed with hfeed | ⟨is, hfeed⟩
  · refine ⟨?_, ?_, ?_⟩
    · rw [hset]
      exact v.sound
    · rw [hset, hfeed]
      exact v.keeps
    · rw [hset, hfeed]
      exact v.seen_le
  · have hversion : t'.watch.feed.version = t.watch.feed.version + 1 := by
      rw [hfeed]
      rfl
    have hle := v.seen_le
    refine ⟨?_, ?_, ?_⟩
    · rw [hset]
      exact v.sound
    · intro hseen
      rw [hset, hversion] at hseen
      omega
    · rw [hset, hversion]
      omega

/-- Whether the watch goes on or ends, its feed has what it comes with. -/
theorem serving_goOn {t : Pipeline κ τ} (v : Serving factory t) {w : Watch}
    (hfeed : w.feed = t.watch.feed ∨ ∃ is, w.feed = t.watch.feed.publish is) :
    Serving factory (t.goOn w) := by
  rcases goOn_cases t w with ⟨query, h, -⟩ | h
  · rw [h]
    exact serving_publish v rfl hfeed
  · have before : Serving factory { t with watch := w } := serving_publish v rfl hfeed
    rw [h]
    exact ⟨before.sound, before.keeps, before.seen_le⟩

theorem serving_watchStep {t : Pipeline κ τ} (f : Following t) (v : Serving factory t) :
    Serving factory t.watchStep := by
  rcases watchStep_cases t with ⟨-, h⟩ | ⟨q, instances, index, hq, -, h⟩ | ⟨q, -, h⟩ <;> rw [h]
  · refine serving_goOn v (Or.inl ?_)
    rcases woken_cases f with hw | ⟨-, hw⟩ <;> rw [hw]
  · obtain ⟨feed, hw, -, hfeed⟩ :=
      Watch.answered_ok (Watch.query?_eq_some hq).1 instances index t.now
    refine serving_goOn v ?_
    rw [hw]
    exact hfeed.imp_right fun h => ⟨_, h⟩
  · exact serving_publish v rfl (Or.inl rfl)

/-- A pick brings the endpoints up to date, and finds one of them or finds that there is
none. -/
theorem picked_spec (hf : factory.Returns) {t : Pipeline κ τ} (f : Following t)
    (hopen : t.watch.feed.isOpen = true) (v : Serving factory t) :
    ∃ s workshop notes, t.picked factory = ⟨.ok (t.rotation.pick s.endpoints).1,
        (⟨t.watch.feed, s, (t.rotation.pick s.endpoints).2⟩, workshop), notes⟩ ∧
      s.seen = t.watch.feed.version ∧ s.Sound factory ∧
      s.MadeFor factory t.watch.feed.instances := by
  obtain ⟨s, workshop, notes, hread, hseen, hsound, hmade⟩ :=
    EndpointSet.read_sound hf hopen f.feed_distinct v.sound v.keeps t.workshop
  obtain ⟨notes', hpick⟩ := Backends.pick_run (b := ⟨t.watch.feed, t.set, t.rotation⟩) hread
  exact ⟨s, workshop, notes', hpick, hseen, hsound, hmade⟩

theorem serving_pick (hf : factory.Returns) {t : Pipeline κ τ} (f : Following t)
    (v : Serving factory t) : Serving factory (t.pick factory) := by
  by_cases hopen : t.watch.feed.isOpen = true
  · obtain ⟨s, workshop, notes, hpicked, hseen, hsound, hmade⟩ := picked_spec hf f hopen v
    unfold pick
    rw [hpicked]
    exact ⟨hsound, fun _ => hmade, Nat.le_of_eq hseen⟩
  · -- The watch has ended, and the endpoints stay as they are.
    have hread : (EndpointSet.read factory t.watch.feed t.set).run t.workshop =
        ⟨.ok t.set, t.workshop, []⟩ := EndpointSet.read_of_not_news (fun h => hopen h.1) _
    obtain ⟨notes, hpicked⟩ := Backends.pick_run (b := ⟨t.watch.feed, t.set, t.rotation⟩) hread
    unfold pick picked
    rw [hpicked]
    exact ⟨v.sound, v.keeps, v.seen_le⟩

theorem serving_subscribe (hf : factory.Returns) {t : Pipeline κ τ} (f : Following t) :
    Serving factory (t.subscribe factory) := by
  obtain ⟨s, workshop, notes, hrun, hseen, hsound, hmade⟩ :=
    EndpointSet.ofFeed_sound hf t.watch.service f.feed_distinct t.workshop
  unfold subscribe
  rw [hrun]
  exact ⟨hsound, fun _ => hmade, Nat.le_of_eq hseen⟩

theorem following_subscribe (hf : factory.Returns) {t : Pipeline κ τ} (f : Following t) :
    Following (t.subscribe factory) := by
  obtain ⟨s, workshop, notes, hrun, -⟩ :=
    EndpointSet.ofFeed_sound hf t.watch.service f.feed_distinct t.workshop
  unfold subscribe
  rw [hrun]
  exact { f with }

/-! ## Whole runs -/

/-- The watch is in step with the registry, and the endpoints with the watch. -/
structure Good (factory : Factory τ κ) (t : Pipeline κ τ) : Prop where
  following : Following t
  serving : Serving factory t

theorem good_step (hf : factory.Returns) {t : Pipeline κ τ} (g : Good factory t) (e : Event) :
    Good factory (t.step factory e) := by
  obtain ⟨f, v⟩ := g
  cases e with
  | change m => exact ⟨following_change f m, { v with }⟩
  | write m => exact ⟨following_write f m, { v with }⟩
  | settle =>
    refine ⟨following_settle f, ?_⟩
    show Serving factory t.settle
    unfold settle
    split
    · exact v
    · exact { v with }
  | watch => exact ⟨following_watchStep f, serving_watchStep f v⟩
  | elapse millis =>
    exact ⟨{ f with }, { v with }⟩
  | subscribe => exact ⟨following_subscribe hf f, serving_subscribe hf f⟩
  | pick =>
    exact ⟨{ f with }, serving_pick hf f v⟩

theorem good_run (hf : factory.Returns) {t : Pipeline κ τ} (g : Good factory t)
    (events : List Event) : Good factory (t.run factory events) := by
  induction events using List.reverseRecOn with
  | nil => exact g
  | append_singleton events e ih =>
    rw [run_snoc]
    exact good_step hf ih e

theorem service_goOn (t : Pipeline κ τ) (w : Watch) : (t.goOn w).watch.service = w.service := by
  rcases goOn_cases t w with ⟨query, h, -⟩ | h <;> rw [h]

/-- The watch stays with its service. -/
theorem service_step (t : Pipeline κ τ) (e : Event) :
    (t.step factory e).watch.service = t.watch.service := by
  cases e with
  | settle =>
    show t.settle.watch.service = _
    unfold settle
    split <;> rfl
  | watch =>
    show t.watchStep.watch.service = _
    rcases watchStep_cases t with ⟨-, h⟩ | ⟨q, instances, index, hq, -, h⟩ | ⟨q, -, h⟩ <;> rw [h]
    · rw [service_goOn]
      unfold Watch.woken
      split
      · split <;> rfl
      · rfl
    · obtain ⟨feed, hw, -⟩ := Watch.answered_ok (Watch.query?_eq_some hq).1 instances index t.now
      rw [service_goOn, hw]
  | subscribe =>
    show (t.subscribe factory).watch.service = _
    unfold subscribe
    split <;> rfl
  | _ => rfl

theorem service_run (t : Pipeline κ τ) (events : List Event) :
    (t.run factory events).watch.service = t.watch.service := by
  induction events using List.reverseRecOn with
  | nil => rfl
  | append_singleton events e ih => rw [run_snoc, service_step, ih]

theorem writing_goOn (t : Pipeline κ τ) (w : Watch) : (t.goOn w).writing = t.writing := by
  rcases goOn_cases t w with ⟨query, h, -⟩ | h <;> rw [h]

theorem writing_step (t : Pipeline κ τ) {e : Event} (h : e.isWhole = true) :
    (t.step factory e).writing = t.writing := by
  cases e with
  | write m => cases h
  | settle => cases h
  | watch =>
    show t.watchStep.writing = _
    rcases watchStep_cases t with ⟨-, h⟩ | ⟨q, instances, index, -, -, h⟩ | ⟨q, -, h⟩ <;> rw [h]
    · exact writing_goOn t _
    · exact writing_goOn t _
  | subscribe =>
    show (t.subscribe factory).writing = _
    unfold subscribe
    split <;> rfl
  | _ => rfl

/-- Where all changes are whole, none is half made. -/
theorem writing_run (t : Pipeline κ τ) (events : List Event)
    (h : ∀ e ∈ events, e.isWhole = true) : (t.run factory events).writing = t.writing := by
  induction events using List.reverseRecOn with
  | nil => rfl
  | append_singleton events e ih =>
    rw [run_snoc, writing_step _ (h e (by simp)), ih fun e' he' => h e' (by simp [he'])]

/-! ## The law -/

/-- What a service's clients find when everything is up to date. -/
structure UpToDate (factory : Factory τ κ) (service : String) (t : Pipeline κ τ) : Prop where
  /-- Published is exactly what is registered, passing and of this service. -/
  published : ∀ i, i ∈ t.watch.feed.instances ↔ t.registry.Offers service i
  in_order : t.watch.feed.instances.Pairwise fun a b => a.id < b.id
  pick_ends : ∃ picked, (t.picked factory).result = .ok picked
  /-- After a pick there are endpoints of current instances only. -/
  current : ∀ b ∈ (t.pick factory).set.cache, t.registry.Offers service b.inst
  /-- What is picked was built for a current instance. -/
  picks_current : ∀ e, (t.picked factory).result = .ok (.ok e) →
    ∃ b ∈ (t.pick factory).set.cache, b.endpoint = e ∧ t.registry.Offers service b.inst ∧
      factory.Gives b.inst e
  fails_as : ∀ f, (t.picked factory).result = .ok (.error f) →
    f = .unavailable "no endpoints available"
  /-- A pick fails exactly if no current instance has an endpoint. -/
  fails_iff : (∃ f, (t.picked factory).result = .ok (.error f)) ↔
    ∀ i, t.registry.Offers service i → ¬ ∃ b ∈ (t.pick factory).set.cache, b.inst = i
  /-- A current instance is without an endpoint only if the factory failed for it. -/
  without : ∀ i, t.registry.Offers service i →
    (¬ ∃ b ∈ (t.pick factory).set.cache, b.inst = i) → factory.FailsFor i

/-- What a parked watch has published is what the registry offers. -/
theorem published_of_parked {t : Pipeline κ τ} (f : Following t) (hparked : t.Parked)
    (hwriting : t.writing = 0) (i : Instance) :
    i ∈ t.watch.feed.instances ↔ t.registry.Offers t.watch.service i := by
  rw [f.published hwriting hparked.2]
  exact Registry.mem_snapshot _ _ _ i

theorem upToDate_of_good (hf : factory.Returns) {t : Pipeline κ τ} (g : Good factory t)
    (hparked : t.Parked) (hwriting : t.writing = 0) :
    UpToDate factory t.watch.service t := by
  have hopen : t.watch.feed.isOpen = true := g.following.feed_open (by simp [hparked.2])
  obtain ⟨s, workshop, notes, hpicked, -, hsound, hmade⟩ :=
    picked_spec hf g.following hopen g.serving
  have hoffers := published_of_parked g.following hparked hwriting
  have hset : (t.pick factory).set = s := by
    unfold pick
    rw [hpicked]
  have hresult : (t.picked factory).result = .ok (t.rotation.pick s.endpoints).1 := by
    rw [hpicked]
  have hcurrent : ∀ b ∈ s.cache, t.registry.Offers t.watch.service b.inst := by
    intro b hb
    exact (hoffers _).mp (hmade.sublist.subset (List.mem_map_of_mem hb))
  constructor
  case published => exact hoffers
  case in_order =>
    rw [g.following.published hwriting hparked.2]
    exact Registry.snapshot_increasing g.following.ids _
  case pick_ends => exact ⟨_, hresult⟩
  case current =>
    rw [hset]
    exact hcurrent
  case picks_current =>
    intro e he
    rw [hresult] at he
    rcases hsound.pick_cases t.rotation with ⟨-, h⟩ | ⟨b, hb, h⟩ <;> rw [h] at he <;> cases he
    rw [hset]
    exact ⟨b, hb, rfl, hcurrent b hb, hsound.given b hb⟩
  case fails_as =>
    intro f he
    rw [hresult] at he
    rcases hsound.pick_cases t.rotation with ⟨-, h⟩ | ⟨b, -, h⟩ <;> rw [h] at he <;> cases he
    rfl
  case fails_iff =>
    rw [hresult, hset]
    rcases hsound.pick_cases t.rotation with ⟨hnil, h⟩ | ⟨b, hb, h⟩ <;> rw [h]
    · have hnone : ∀ i, ¬ ∃ b ∈ s.cache, b.inst = i := by simp [hnil]
      exact ⟨fun _ i _ => hnone i, fun _ => ⟨_, rfl⟩⟩
    · refine ⟨?_, ?_⟩
      · rintro ⟨f, he⟩
        cases he
      · intro hnone
        exact absurd ⟨b, hb, rfl⟩ (hnone b.inst (hcurrent b hb))
  case without =>
    intro i hi hnone
    rw [hset] at hnone
    exact (hmade.covers i ((hoffers i).mpr hi)).resolve_left hnone

/-- Whenever the watch waits for the registry to get past where it is, and no change is half
made, everything is up to date. -/
theorem a_parked_watch_has_everything_up_to_date (hf : factory.Returns) (service : String)
    (wait : Nat) (workshop : τ) (events : List Event)
    (hparked : ((fresh service wait workshop).run factory events).Parked)
    (hwhole : (∀ e ∈ events, e.isWhole = true) ∨
      ((fresh service wait workshop).run factory events).writing = 0) :
    UpToDate factory service ((fresh service wait workshop).run factory events) := by
  have g : Good factory ((fresh service wait workshop).run factory events) :=
    good_run hf ⟨following_fresh service wait workshop, serving_fresh service wait workshop⟩ events
  have hwriting : ((fresh service wait workshop).run factory events).writing = 0 := by
    rcases hwhole with h | h
    · exact writing_run _ events h
    · exact h
  have h := upToDate_of_good hf g hparked hwriting
  rw [service_run] at h
  exact h

/-- Builds the address of an instance. -/
def addresses : Factory Unit String := fun i => pure (.ok i.address)

/-- Instances of two services register, and the watch on one of them comes to wait. -/
def twoServices : List Event :=
  [.change (.register ⟨"a-1", "add", "127.0.0.1", 80, none, []⟩),
    .change (.register ⟨"s-1", "string", "127.0.0.1", 81, none, []⟩),
    .watch, .watch, .watch, .watch, .watch, .watch]

theorem two_services_are_told_apart :
    ((fresh "add" 30000 ()).run addresses twoServices).Parked ∧
      UpToDate addresses "add" ((fresh "add" 30000 ()).run addresses twoServices) := by
  have hparked : ((fresh "add" 30000 ()).run addresses twoServices).Parked := by
    refine ⟨⟨30000, ?_⟩, ?_⟩ <;>
      simp [run, twoServices, step, fresh, watchStep, goOn, Watch.query?, Watch.woken,
        Watch.answered, Watch.nextIndex, Feed.publish, QueryStage.start, Instant.after,
        Instant.limit, QueryStage.step,
        Registry.apply, Registry.write, Registry.bump, Registry.entry?, Registry.matchesEntry,
        Instance.sorted]
  refine ⟨hparked, ?_⟩
  refine a_parked_watch_has_everything_up_to_date ?_ "add" 30000 () twoServices hparked
    (Or.inl (by decide))
  intro i t
  exact ⟨_, rfl⟩

end Pipeline

end ServiceMesh
