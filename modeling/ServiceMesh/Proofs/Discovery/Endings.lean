-- A publisher that stops at any moment: what reads show until then, what they show from then
-- on, and when that is still what was published last.
import ServiceMesh.Proofs.Discovery.ReadingLaws

namespace ServiceMesh.Backends

variable {τ κ : Type}

/-! ## The endpoints of a list -/

/-- In the order of a list, what came in for each of its instances by some order in the book; an
instance without an endpoint is one for which an order failed. -/
inductive Shows (book : Orders κ) : List Instance → List κ → Prop
  | nil : Shows book [] []
  | shown {i : Instance} {e : κ} {is : List Instance} {es : List κ} (h : (i, .ok e) ∈ book)
      (rest : Shows book is es) : Shows book (i :: is) (e :: es)
  | missing {i : Instance} {f : Failure} {is : List Instance} {es : List κ}
      (h : (i, .error f) ∈ book) (rest : Shows book is es) : Shows book (i :: is) es

namespace Shows

variable {book : Orders κ} {is js : List Instance} {es fs : List κ}

theorem append (h : Shows book is es) (h' : Shows book js fs) :
    Shows book (is ++ js) (es ++ fs) := by
  induction h with
  | nil => exact h'
  | shown hi _ ih => exact .shown hi ih
  | missing hi _ ih => exact .missing hi ih

/-- Orders that follow take nothing back. -/
theorem later (h : Shows book is es) (more : Orders κ) : Shows (book ++ more) is es := by
  induction h with
  | nil => exact .nil
  | shown hi _ ih => exact .shown (List.mem_append_left more hi) ih
  | missing hi _ ih => exact .missing (List.mem_append_left more hi) ih

end Shows

/-- A book without failures, and without an endpoint that came in for two instances. -/
structure TellsApart (book : Orders κ) : Prop where
  built : ∀ i f, (i, .error f) ∉ book
  own : ∀ {i j e}, (i, .ok e) ∈ book → (j, .ok e) ∈ book → i = j

/-- Where every instance has an endpoint of its own, the endpoints tell the list. -/
theorem TellsApart.unique {book : Orders κ} (h : TellsApart book) {is js : List Instance}
    {es : List κ} (his : Shows book is es) (hjs : Shows book js es) : is = js := by
  induction his generalizing js with
  | nil =>
    cases hjs with
    | nil => rfl
    | missing hj _ => exact absurd hj (h.built _ _)
  | shown hi _ ih =>
    cases hjs with
    | shown hj rest => rw [h.own hi hj, ih rest]
    | missing hj _ => exact absurd hj (h.built _ _)
  | missing hi _ _ => exact absurd hi (h.built _ _)

/-! ## Rebuilds, whatever a list repeats -/

open EndpointSet (Rebuild kept? of_kept? rebuild)

theorem Held.later {held : List (Built κ)} {book : Orders κ} (h : Held held book)
    (more : Orders κ) : Held held (book ++ more) :=
  fun b hb => List.mem_append_left more (h b hb)

/-- A set under way, the instances gone through, and the book. -/
structure UnderWay (book : Orders κ) (r : Rebuild κ) (gone : List Instance) : Prop where
  previous : Held r.previous book
  cache : Held r.cache book
  shows : Shows book gone r.endpoints

namespace UnderWay

variable {book : Orders κ} {r : Rebuild κ} {gone : List Instance} {i : Instance}

theorem later (h : UnderWay book r gone) (more : Orders κ) :
    UnderWay (book ++ more) r gone :=
  ⟨h.previous.later more, h.cache.later more, h.shows.later more⟩

theorem without (h : UnderWay book r gone) (i : Instance) :
    Held (r.without i).previous book :=
  fun b hb => h.previous b (List.mem_filter.mp hb).1

theorem add (h : UnderWay book r gone) {e : κ} (he : (i, .ok e) ∈ book) :
    UnderWay book ((r.without i).add ⟨i, e⟩) (gone ++ [i]) where
  previous := h.without i
  cache := by
    intro b hb
    rcases List.mem_append.mp hb with hold | hnew
    · exact h.cache b (List.mem_filter.mp hold).1
    · rw [List.mem_singleton.mp hnew]
      exact he
  shows := h.shows.append (.shown he .nil)

theorem skip (h : UnderWay book r gone) {f : Failure} (hf : (i, .error f) ∈ book) :
    UnderWay book (r.without i) (gone ++ [i]) where
  previous := h.without i
  cache := h.cache
  shows := by
    have shows := h.shows.append (.missing hf .nil)
    rwa [List.append_nil] at shows

end UnderWay

variable {factory : Factory τ κ}

theorem run_next (hf : factory.Returns) (service : String) {book : Orders κ} {r : Rebuild κ}
    {gone : List Instance} (h : UnderWay book r gone) (i : Instance) (t : τ) :
    ∃ r' asked t' notes, (Rebuild.next service factory.booked r i).run (t, book) =
        ⟨.ok r', (t', book ++ asked), notes⟩ ∧
      factory.Answers t asked t' ∧ UnderWay (book ++ asked) r' (gone ++ [i]) := by
  cases hb : kept? r.previous i with
  | some b =>
    -- The endpoint came in with an order made long ago, and no new one is made.
    obtain ⟨hmem, rfl⟩ := of_kept? hb
    refine ⟨(r.without b.inst).add b, [], t, [], ?_, .nil t, ?_⟩
    · rw [List.append_nil]
      exact Rebuild.next_kept service factory.booked hb (t, book)
    · rw [List.append_nil]
      exact h.add (h.previous b hmem)
  | none =>
    obtain ⟨answer, t', notes, notes', hfirst, hrun⟩ := Factory.run_booked hf i t book
    have put : (i, answer) ∈ book ++ [(i, answer)] := List.mem_append_right book (by simp)
    cases answer with
    | ok e =>
      obtain ⟨more, hnext⟩ := Rebuild.next_made service factory.booked hb hrun
      exact ⟨_, [(i, .ok e)], t', more, hnext, .cons hfirst (.nil t'), (h.later _).add put⟩
    | error f =>
      obtain ⟨more, hnext⟩ := Rebuild.next_failed service factory.booked hb hrun
      exact ⟨_, [(i, .error f)], t', more, hnext, .cons hfirst (.nil t'), (h.later _).skip put⟩

theorem run_foldlM_next (hf : factory.Returns) (service : String) (is : List Instance)
    {book : Orders κ} {r : Rebuild κ} {gone : List Instance} (h : UnderWay book r gone) (t : τ) :
    ∃ r' asked t' notes, (is.foldlM (Rebuild.next service factory.booked) r).run (t, book) =
        ⟨.ok r', (t', book ++ asked), notes⟩ ∧
      factory.Answers t asked t' ∧ UnderWay (book ++ asked) r' (gone ++ is) := by
  induction is generalizing book r gone t with
  | nil =>
    refine ⟨r, [], t, [], ?_, .nil t, ?_⟩
    · rw [List.append_nil]
      rfl
    · rwa [List.append_nil, List.append_nil]
  | cons i is ih =>
    obtain ⟨r₁, asked, t₁, notes, hnext, hfirst, h₁⟩ := run_next hf service h i t
    obtain ⟨r', more, t', notes', hrest, hanswers, h'⟩ := ih h₁ t₁
    rw [List.foldlM_cons, Act.run_bind_ok hnext, hrest]
    refine ⟨r', asked ++ more, t', notes ++ notes', ?_, hfirst.append hanswers, ?_⟩
    · rw [List.append_assoc]
    · rwa [← List.append_assoc, List.append_cons]

/-- A rebuild shows the endpoints of its list, whatever was held before. -/
theorem run_rebuild (hf : factory.Returns) (is : List Instance) {s : EndpointSet κ}
    {book : Orders κ} (h : Held s.cache book) (t : τ) :
    ∃ s' asked t' notes, (rebuild factory.booked is s).run (t, book) =
        ⟨.ok s', (t', book ++ asked), notes⟩ ∧
      factory.Answers t asked t' ∧ s'.seen = s.seen ∧ Held s'.cache (book ++ asked) ∧
      Shows (book ++ asked) is s'.endpoints := by
  have start : UnderWay book (⟨s.cache, [], []⟩ : Rebuild κ) [] := ⟨h, nofun, .nil⟩
  obtain ⟨r, asked, t', notes, hrun, hanswers, hr⟩ := run_foldlM_next hf s.service is start t
  unfold rebuild
  rw [Act.run_bind_ok hrun]
  exact ⟨_, asked, t', _, rfl, hanswers, rfl, hr.cache, hr.shows⟩

/-! ## Until the publisher stops -/

/-- A reader of an open feed: the list that it read last, and the one published last. -/
structure Abreast (book : Orders κ) (known latest : List Instance) (b : Backends κ) : Prop where
  open_feed : b.feed.isOpen = true
  instances : b.feed.instances = latest
  seen_le : b.set.seen ≤ b.feed.version
  caught_up : b.set.seen = b.feed.version → known = latest
  held : Held b.set.cache book
  shows : Shows book known b.set.endpoints

/-- The list that is published last. -/
def published (latest : List Instance) : List Turn → List Instance
  | [] => latest
  | .publish is :: turns => published is turns
  | .read :: turns => published latest turns

/-- The list that is published when the last read comes. -/
def lastRead (latest known : List Instance) : List Turn → List Instance
  | [] => known
  | .publish is :: turns => lastRead is known turns
  | .read :: turns => lastRead latest latest turns

/-- What the last read showed. -/
def shown (endpoints : List κ) : List (Told κ) → List κ
  | [] => endpoints
  | .published _ :: told => shown endpoints told
  | .read endpoints _ :: told => shown endpoints told

/-- Each read shows the endpoints of the list that is published last before it, as they have
come in by then. -/
def Current : (latest : List Instance) → (book : Orders κ) → List (Told κ) → Prop
  | _, _, [] => True
  | _, book, .published is :: told => Current is book told
  | latest, book, .read endpoints asked :: told =>
    Shows (book ++ asked) latest endpoints ∧ Current latest (book ++ asked) told

variable {book : Orders κ} {known latest : List Instance} {b : Backends κ}

theorem Abreast.published (h : Abreast book known latest b) (is : List Instance) :
    Abreast book known is (b.publish is) where
  open_feed := h.open_feed
  instances := rfl
  seen_le := Nat.le_succ_of_le h.seen_le
  caught_up := fun seen => absurd (seen ▸ h.seen_le) (Nat.not_succ_le_self _)
  held := h.held
  shows := h.shows

/-- A read of an open feed shows the endpoints of the list published last. -/
theorem Abreast.read (hf : factory.Returns) (h : Abreast book known latest b) (t : τ) :
    ∃ b' asked t' notes, (take factory .read).run (b, t, book) =
        ⟨.ok (.read b'.set.endpoints asked), (b', t', book ++ asked), notes⟩ ∧
      factory.Answers t asked t' ∧ Abreast (book ++ asked) latest latest b' := by
  obtain ⟨hopen, rfl, hle, hup, hheld, hshows⟩ := h
  by_cases seen : b.set.seen = b.feed.version
  -- Without news the list that was read last is the latest one.
  · obtain ⟨notes, htake⟩ := run_take_quiet factory (fun news => news.2 seen.symm) t book
    refine ⟨b, [], t, notes, ?_, .nil t, ?_⟩
    · rw [List.append_nil]
      exact htake
    · rw [List.append_nil]
      exact ⟨hopen, rfl, hle, fun _ => rfl, hheld, hup seen ▸ hshows⟩
  · obtain ⟨s', asked, t', notes, hrun, hanswers, hseen, hheld', hshows'⟩ := run_rebuild hf
      b.feed.instances (s := { b.set with seen := b.feed.version }) hheld t
    have hread : EndpointSet.read factory.booked b.feed b.set =
        rebuild factory.booked b.feed.instances { b.set with seen := b.feed.version } := by
      unfold EndpointSet.read
      rw [if_pos ⟨hopen, Ne.symm seen⟩]
    rw [← hread] at hrun
    obtain ⟨notes', htake⟩ := run_take_read hrun
    exact ⟨{ b with set := s' }, asked, t', notes', htake, hanswers,
      ⟨hopen, rfl, Nat.le_of_eq hseen, fun _ => rfl, hheld', hshows'⟩⟩

theorem run_takeAll_abreast (hf : factory.Returns) (turns : List Turn)
    (h : Abreast book known latest b) (t : τ) :
    ∃ told b' t' notes, (takeAll factory turns).run (b, t, book) =
        ⟨.ok told, (b', t', book ++ told.flatMap Told.orders), notes⟩ ∧
      told.map Told.turn = turns ∧ Current latest book told ∧
      factory.Answers t (told.flatMap Told.orders) t' ∧
      b'.set.endpoints = shown b.set.endpoints told ∧
      Abreast (book ++ told.flatMap Told.orders) (lastRead latest known turns)
        (Backends.published latest turns) b' := by
  induction turns generalizing book known latest b t with
  | nil =>
    refine ⟨[], b, t, [], ?_, rfl, trivial, .nil t, rfl, ?_⟩
    · rw [List.flatMap_nil, List.append_nil]
      rfl
    · rw [List.flatMap_nil, List.append_nil]
      exact h
  | cons turn turns ih =>
    cases turn with
    | publish is =>
      have hone : (take factory (.publish is)).run (b, t, book) =
          ⟨.ok (.published is), (b.publish is, t, book), []⟩ := rfl
      obtain ⟨told, b', t', notes, hrun, hturns, hcurrent, hanswers, hshown, h'⟩ :=
        ih (h.published is) t
      obtain ⟨more, hmore⟩ := run_takeAll_cons hone hrun
      exact ⟨_, b', t', more, hmore, congrArg _ hturns, hcurrent, hanswers, hshown, h'⟩
    | read =>
      obtain ⟨b₁, asked, t₁, notes, hone, hfirst, h₁⟩ := h.read hf t
      obtain ⟨told, b', t', notes', hrun, hturns, hcurrent, hanswers, hshown, h'⟩ := ih h₁ t₁
      obtain ⟨more, hmore⟩ := run_takeAll_cons hone hrun
      rw [List.append_assoc] at hmore h'
      exact ⟨_, b', t', more, hmore, congrArg _ hturns, ⟨h₁.shows, hcurrent⟩,
        hfirst.append hanswers, hshown, h'⟩

/-- A reader begins with a first read. -/
theorem run_begin_abreast (hf : factory.Returns) (service : String) (initial : List Instance)
    (t : τ) :
    ∃ b asked t' notes, (begin factory.booked initial).run (none service, t, []) =
        ⟨.ok (), (b, t', asked), notes⟩ ∧
      factory.Answers t asked t' ∧ Abreast asked initial initial b := by
  have fresh : Held (κ := κ) ({ service, seen := 0 } : EndpointSet κ).cache [] := nofun
  obtain ⟨s', asked, t', notes, hrun, hanswers, hseen, hheld, hshows⟩ :=
    run_rebuild hf initial fresh t
  obtain ⟨notes', hbegin⟩ := run_begin_of_rebuild hrun
  exact ⟨_, asked, t', notes', hbegin, hanswers,
    ⟨rfl, rfl, Nat.le_of_eq hseen, fun _ => rfl, hheld, hshows⟩⟩

theorem run_attend_abreast (hf : factory.Returns) (service : String) (initial : List Instance)
    (turns : List Turn) (t : τ) :
    ∃ early b t' notes, (attend factory initial turns).run (none service, t, []) =
        ⟨.ok early, (b, t', early.flatMap Told.orders), notes⟩ ∧
      early.map Told.turn = .read :: turns ∧ Current initial [] early ∧
      factory.Answers t (early.flatMap Told.orders) t' ∧ b.set.endpoints = shown [] early ∧
      Abreast (early.flatMap Told.orders) (lastRead initial initial turns)
        (published initial turns) b := by
  obtain ⟨b₀, asked, t₀, notes₀, hbegin, hfirst, h₀⟩ := run_begin_abreast hf service initial t
  obtain ⟨told, b, t', notes, hrun, hturns, hcurrent, hanswers, hshown, h⟩ :=
    run_takeAll_abreast hf turns h₀ t₀
  have hattend : ∃ notes', (attend factory initial turns).run (none service, t, []) =
      ⟨.ok (.read b₀.set.endpoints asked :: told),
        (b, t', asked ++ told.flatMap Told.orders), notes'⟩ := by
    unfold attend
    rw [Act.run_bind_ok hbegin, Act.run_bind_ok (Act.run_get _)]
    simp only
    rw [Act.run_bind_ok hrun]
    exact ⟨_, rfl⟩
  obtain ⟨notes', hattend⟩ := hattend
  exact ⟨_, b, t', notes', hattend, congrArg _ hturns, ⟨h₀.shows, hcurrent⟩,
    hfirst.append hanswers, hshown, h⟩

/-! ## From then on -/

/-- The publisher stops. -/
def stop : Act (Backends κ × τ × Orders κ) Unit :=
  Act.modify fun s => ({ s.1 with feed := s.1.feed.close }, s.2)

/-- A reader through its turns, and for some more reads after the publisher has stopped. -/
def outlive (factory : Factory τ κ) (initial : List Instance) (turns : List Turn) (late : Nat) :
    Act (Backends κ × τ × Orders κ) (List (Told κ) × List (Told κ)) := do
  let early ← attend factory initial turns
  stop
  return (early, ← takeAll factory (List.replicate late .read))

/-- Reads of a closed feed show what is there, and order nothing. -/
theorem run_takeAll_closed (factory : Factory τ κ) (h : b.feed.isOpen = false) (late : Nat)
    (t : τ) (book : Orders κ) :
    ∃ notes, (takeAll factory (List.replicate late .read)).run (b, t, book) =
      ⟨.ok (List.replicate late (.read b.set.endpoints [])), (b, t, book), notes⟩ := by
  induction late with
  | zero => exact ⟨[], rfl⟩
  | succ late ih =>
    obtain ⟨notes, htake⟩ :=
      run_take_quiet factory (fun news => Bool.false_ne_true (h ▸ news.1)) t book
    obtain ⟨more, hrest⟩ := ih
    exact run_takeAll_cons htake hrest

theorem current_replicate {endpoints : List κ} {late : Nat} :
    Current latest book (List.replicate late (.read endpoints [])) ↔
      late = 0 ∨ Shows book latest endpoints := by
  induction late with
  | zero => exact iff_of_true trivial (Or.inl rfl)
  | succ late ih =>
    rw [List.replicate_succ, Current, List.append_nil, ih]
    simp only [Nat.succ_ne_zero, false_or]
    exact ⟨And.left, fun shows => ⟨shows, Or.inr shows⟩⟩

/-! ## The law -/

/-- What is told of a reader that outlives its publisher. -/
structure Outlives (factory : Factory τ κ) (t t' : τ) (initial : List Instance)
    (turns : List Turn) (late : Nat) (early rest : List (Told κ)) : Prop where
  turns_eq : early.map Told.turn = .read :: turns
  /-- As long as the publisher is there, each read shows the endpoints of the latest list. -/
  current : Current initial [] early
  /-- What came in is what the factory answered, and it was asked for nothing else. -/
  answered : factory.Answers t (early.flatMap Told.orders) t'
  /-- From then on, each read shows what the last one showed, and orders nothing. -/
  repeats : rest = List.replicate late (.read (shown [] early) [])
  of_last : Shows (early.flatMap Told.orders) (lastRead initial initial turns) (shown [] early)
  /-- So the reads still show the endpoints of the list published last exactly if the last read
  showed them already, -/
  current_iff : Current (published initial turns) (early.flatMap Told.orders) rest ↔
    late = 0 ∨ Shows (early.flatMap Told.orders) (published initial turns) (shown [] early)
  /-- and where endpoints tell instances apart, exactly if that list was the one it read. -/
  read_iff : TellsApart (early.flatMap Told.orders) →
    (Current (published initial turns) (early.flatMap Told.orders) rest ↔
      late = 0 ∨ lastRead initial initial turns = published initial turns)

/-- Wherever the publisher stops, a list that has been read by then is shown ever after, and a
list that has not been read is never shown. -/
theorem a_last_list_is_shown_exactly_if_it_was_read (hf : factory.Returns) (service : String)
    (initial : List Instance) (turns : List Turn) (late : Nat) (t : τ) :
    ∃ early rest b t' notes, (outlive factory initial turns late).run (none service, t, []) =
        ⟨.ok (early, rest), (b, t', early.flatMap Told.orders), notes⟩ ∧
      Outlives factory t t' initial turns late early rest := by
  obtain ⟨early, b, t', notes, hattend, hturns, hcurrent, hanswers, hshown, h⟩ :=
    run_attend_abreast hf service initial turns t
  obtain ⟨more, hlate⟩ := run_takeAll_closed factory
    (b := { b with feed := b.feed.close }) rfl late t' (early.flatMap Told.orders)
  have houtlive : ∃ notes', (outlive factory initial turns late).run (none service, t, []) =
      ⟨.ok (early, List.replicate late (.read b.set.endpoints [])),
        ({ b with feed := b.feed.close }, t', early.flatMap Told.orders), notes'⟩ := by
    unfold outlive stop
    rw [Act.run_bind_ok hattend, Act.run_bind_ok (Act.run_modify _ _), Act.run_bind_ok hlate]
    exact ⟨_, rfl⟩
  obtain ⟨notes', houtlive⟩ := houtlive
  have hlast : Shows (early.flatMap Told.orders) (lastRead initial initial turns)
      (shown [] early) := hshown ▸ h.shows
  refine ⟨early, _, _, t', notes', houtlive, ?_⟩
  rw [hshown]
  exact
    { turns_eq := hturns
      current := hcurrent
      answered := hanswers
      repeats := rfl
      of_last := hlast
      current_iff := current_replicate
      read_iff := fun apart => current_replicate.trans <| or_congr_right
        ⟨fun shows => apart.unique hlast shows, fun same => same ▸ hlast⟩ }

/-- Builds for every instance an endpoint that bears its id. -/
def byId : Factory Unit String := fun i => return .ok i.id

/-- A list that is read before the publisher stops is shown ever after. -/
theorem a_list_read_in_time_is_shown_ever_after :
    byId.Returns ∧ ∃ early rest b t' notes,
      (outlive byId [adder "a" 1] [.publish [adder "b" 2], .read] 2).run (none "add", (), []) =
        ⟨.ok (early, rest), (b, t', early.flatMap Told.orders), notes⟩ ∧
      Outlives byId () t' [adder "a" 1] [.publish [adder "b" 2], .read] 2 early rest ∧
      Current [adder "b" 2] (early.flatMap Told.orders) rest := by
  have hf : byId.Returns := fun i t => ⟨_, rfl⟩
  obtain ⟨early, rest, b, t', notes, hrun, h⟩ := a_last_list_is_shown_exactly_if_it_was_read hf
    "add" [adder "a" 1] [.publish [adder "b" 2], .read] 2 ()
  exact ⟨hf, early, rest, b, t', notes, hrun, h, h.current_iff.mpr (Or.inr h.of_last)⟩

/-- A list that is published just before the publisher stops, and read afterwards: the instance
that is gone is shown, and the one that is there is not. -/
theorem a_list_read_too_late_is_not_shown :
    ∃ early rest b t' notes,
      (outlive byId [adder "a" 1] [.publish [adder "b" 2]] 1).run (none "add", (), []) =
        ⟨.ok (early, rest), (b, t', early.flatMap Told.orders), notes⟩ ∧
      rest = [.read ["a"] []] ∧
      ¬ Current [adder "b" 2] (early.flatMap Told.orders) rest := by
  refine ⟨[.read ["a"] [(adder "a" 1, .ok "a")], .published [adder "b" 2]], [.read ["a"] []],
    _, _, _, rfl, rfl, ?_⟩
  -- Nobody was asked for the new instance, neither with nor without success.
  have unasked : ∀ answer, (adder "b" 2, answer) ∉
      [(adder "a" 1, (.ok "a" : Except Failure String))] := by
    intro answer h
    have same : "b" = "a" := congrArg (·.1.id) (List.mem_singleton.mp h)
    exact absurd same (by decide)
  rintro ⟨shows, -⟩
  cases shows with
  | shown h _ => exact unasked _ h
  | missing h _ => exact unasked _ h

end ServiceMesh.Backends
