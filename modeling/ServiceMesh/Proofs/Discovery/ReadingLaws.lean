-- The law of a reader: a read shows the endpoints of the list that was published
-- last, kept from the rebuild before or ordered anew, and orders what is missing
-- and nothing else.
import ServiceMesh.Proofs.Discovery.Readings

namespace ServiceMesh.Backends

variable {τ κ : Type}

/-! ## Turns -/

/-- What comes next. -/
inductive Turn where
  | publish (instances : List Instance)
  | read
  deriving DecidableEq, Repr

/-- What is told of a turn: of a read, what it shows and what it ordered. -/
inductive Told (κ : Type) where
  | published (instances : List Instance)
  | read (endpoints : List κ) (asked : Orders κ)

namespace Told

def turn : Told κ → Turn
  | .published is => .publish is
  | .read _ _ => .read

def orders : Told κ → Orders κ
  | .published _ => []
  | .read _ asked => asked

end Told

section Turns

variable (factory : Factory τ κ)

/-- Publishes a list, or reads the endpoints and looks up in the book what has come in. -/
def take : Turn → Act (Backends κ × τ × Orders κ) (Told κ)
  | .publish is => do
    Act.modify fun s => (s.1.publish is, s.2)
    return .published is
  | .read => do
    let (_, _, before) ← Act.get
    let endpoints ← refresh factory.booked
    let (_, _, book) ← Act.get
    return .read endpoints (book.drop before.length)

def takeAll : List Turn → Act (Backends κ × τ × Orders κ) (List (Told κ))
  | [] => return []
  | turn :: turns => do
    let told ← take factory turn
    return told :: (← takeAll turns)

/-- A reader from its beginning on. It begins with a rebuild, which counts as a first read. -/
def attend (initial : List Instance) (turns : List Turn) :
    Act (Backends κ × τ × Orders κ) (List (Told κ)) := do
  begin factory.booked initial
  let (b, _, book) ← Act.get
  return .read b.set.endpoints book :: (← takeAll factory turns)

end Turns

/-! ## What reads show -/

open EndpointSet (keeps? comesBy remade)

/-- What is told agrees with the lists alone. Carried along are the list that was published
last, whether it has not been read yet, and what is held since the last rebuild. -/
inductive Follows : (latest : List Instance) → (news : Bool) → (held : List (Built κ)) →
    List (Told κ) → Prop
  | nothing {latest : List Instance} {news : Bool} {held : List (Built κ)} :
      Follows latest news held []
  | published {latest is : List Instance} {news : Bool} {held : List (Built κ)}
      {rest : List (Told κ)} (h : Follows is true held rest) :
      Follows latest news held (.published is :: rest)
  | rebuilt {latest : List Instance} {held : List (Built κ)} {asked : Orders κ}
      {rest : List (Told κ)}
      (once : asked.map (·.1) = latest.filter fun i => (keeps? held i).isNone)
      (h : Follows latest false (remade held asked latest) rest) :
      Follows latest true held (.read (latest.filterMap (comesBy held asked)) asked :: rest)
  | unchanged {latest : List Instance} {held : List (Built κ)} {rest : List (Told κ)}
      (h : Follows latest false held rest) :
      Follows latest false held (.read (held.map (·.endpoint)) [] :: rest)

/-- Every endpoint that is shown came in, now or before, for an instance that is listed, as it
is listed. -/
def Genuine : (latest : List Instance) → (book : Orders κ) → List (Told κ) → Prop
  | _, _, [] => True
  | _, book, .published is :: rest => Genuine is book rest
  | latest, book, .read endpoints asked :: rest =>
    (∀ e ∈ endpoints, ∃ i ∈ latest, (i, .ok e) ∈ book ++ asked) ∧
      Genuine latest (book ++ asked) rest

/-- Everything that is held came in for the instance that it is held for. -/
def Held (held : List (Built κ)) (book : Orders κ) : Prop :=
  ∀ b ∈ held, (b.inst, .ok b.endpoint) ∈ book

theorem mem_of_comesBy {held : List (Built κ)} {book asked : Orders κ} (h : Held held book)
    {i : Instance} {e : κ} (he : comesBy held asked i = some e) : (i, .ok e) ∈ book ++ asked := by
  unfold comesBy at he
  rcases Option.or_eq_some_iff.mp he with hkeeps | ⟨-, hnew⟩
  · obtain ⟨b, hfind, rfl⟩ := Option.map_eq_some_iff.mp hkeeps
    have hi : b.inst = i := by simpa using List.find?_some hfind
    rw [← hi]
    exact List.mem_append_left _ (h b (List.mem_of_find?_eq_some hfind))
  · obtain ⟨⟨j, answer⟩, hfind, hanswer⟩ := Option.bind_eq_some_iff.mp hnew
    have hj : j = i := by simpa using List.find?_some hfind
    subst hj
    cases answer with
    | error f => cases hanswer
    | ok e' =>
      cases hanswer
      exact List.mem_append_right _ (List.mem_of_find?_eq_some hfind)

theorem held_remade {held : List (Built κ)} {book asked : Orders κ} (h : Held held book)
    (latest : List Instance) : Held (remade held asked latest) (book ++ asked) := by
  intro b hb
  unfold remade at hb
  obtain ⟨i, -, hi⟩ := List.mem_filterMap.mp hb
  obtain ⟨e, he, rfl⟩ := Option.map_eq_some_iff.mp hi
  exact mem_of_comesBy h he

theorem listed_remade {held : List (Built κ)} {asked : Orders κ} {latest : List Instance} :
    ∀ b ∈ remade held asked latest, b.inst ∈ latest := by
  intro b hb
  unfold remade at hb
  obtain ⟨i, hmem, hi⟩ := List.mem_filterMap.mp hb
  obtain ⟨e, -, rfl⟩ := Option.map_eq_some_iff.mp hi
  exact hmem

/-- What agrees with the lists is genuine. What is held belongs to the latest list as long as
there is no news. -/
theorem Follows.genuine {latest : List Instance} {news : Bool} {held : List (Built κ)}
    {told : List (Told κ)} (h : Follows latest news held told) {book : Orders κ}
    (hheld : Held held book) (hlisted : news = false → ∀ b ∈ held, b.inst ∈ latest) :
    Genuine latest book told := by
  induction h generalizing book with
  | nothing => trivial
  | published _ ih =>
    apply ih hheld
    intro hnews
    cases hnews
  | rebuilt _ _ ih =>
    constructor
    · intro e he
      obtain ⟨i, hi, hcomes⟩ := List.mem_filterMap.mp he
      exact ⟨i, hi, mem_of_comesBy hheld hcomes⟩
    · exact ih (held_remade hheld _) fun _ => listed_remade
  | unchanged _ ih =>
    have same : book ++ [] = book := List.append_nil book
    constructor
    · intro e he
      obtain ⟨b, hb, rfl⟩ := List.mem_map.mp he
      rw [same]
      exact ⟨b.inst, hlisted rfl b hb, hheld b hb⟩
    · rw [same]
      exact ih hheld hlisted

/-! ## A reader at work -/

/-- A reader of an open feed: what it was told last, whether there is news, what it holds. -/
structure Reading (latest : List Instance) (news : Bool) (held : List (Built κ))
    (b : Backends κ) : Prop where
  open_feed : b.feed.isOpen = true
  instances : b.feed.instances = latest
  distinct : (latest.map (·.id)).Nodup
  seen_le : b.set.seen ≤ b.feed.version
  news_iff : news = true ↔ b.set.seen ≠ b.feed.version
  cache : b.set.cache = held
  endpoints : b.set.endpoints = held.map (·.endpoint)
  ids : (held.map (·.inst.id)).Nodup

variable {factory : Factory τ κ} {latest : List Instance} {news : Bool} {held : List (Built κ)}
  {b : Backends κ}

theorem Reading.published (h : Reading latest news held b) {is : List Instance}
    (his : (is.map (·.id)).Nodup) : Reading is true held (b.publish is) where
  open_feed := h.open_feed
  instances := rfl
  distinct := his
  seen_le := Nat.le_succ_of_le h.seen_le
  news_iff := by
    have hle := h.seen_le
    have hne : b.set.seen ≠ b.feed.version + 1 := by omega
    exact ⟨fun _ => hne, fun _ => rfl⟩
  cache := h.cache
  endpoints := h.endpoints
  ids := h.ids

theorem run_take_read {t t' : τ} {book asked : Orders κ} {s' : EndpointSet κ} {notes : List Note}
    (h : (EndpointSet.read factory.booked b.feed b.set).run (t, book) =
      ⟨.ok s', (t', book ++ asked), notes⟩) :
    ∃ notes', (take factory .read).run (b, t, book) =
      ⟨.ok (.read s'.endpoints asked), ({ b with set := s' }, t', book ++ asked), notes'⟩ := by
  obtain ⟨notes', hrefresh⟩ := run_refresh h
  unfold take
  rw [Act.run_bind_ok (Act.run_get _)]
  simp only
  rw [Act.run_bind_ok hrefresh, Act.run_bind_ok (Act.run_get _)]
  simp only [List.drop_left]
  exact ⟨_, rfl⟩

/-- A read that does not hear of any news shows what is there, and orders nothing. -/
theorem run_take_quiet (factory : Factory τ κ)
    (h : ¬ (b.feed.isOpen = true ∧ b.feed.version ≠ b.set.seen)) (t : τ) (book : Orders κ) :
    ∃ notes, (take factory .read).run (b, t, book) =
      ⟨.ok (.read b.set.endpoints []), (b, t, book), notes⟩ := by
  have hread : (EndpointSet.read factory.booked b.feed b.set).run (t, book) =
      ⟨.ok b.set, (t, book ++ []), []⟩ := by
    rw [List.append_nil]
    exact EndpointSet.read_of_not_news h _
  obtain ⟨notes, htake⟩ := run_take_read hread
  rw [List.append_nil] at htake
  exact ⟨notes, htake⟩

/-- The first read after news rebuilds the set. -/
theorem Reading.read_news (hf : factory.Returns) (h : Reading latest true held b) (t : τ)
    (book : Orders κ) :
    ∃ asked b' t' notes, (take factory .read).run (b, t, book) =
        ⟨.ok (.read (latest.filterMap (comesBy held asked)) asked), (b', t', book ++ asked),
          notes⟩ ∧
      asked.map (·.1) = latest.filter (fun i => (keeps? held i).isNone) ∧
      factory.Answers t asked t' ∧ Reading latest false (remade held asked latest) b' := by
  obtain rfl := h.instances
  obtain rfl := h.cache
  have hseen : b.feed.version ≠ b.set.seen := Ne.symm (h.news_iff.mp rfl)
  obtain ⟨asked, t', notes, hrun, honce, hanswers, hids⟩ := EndpointSet.rebuild_ordered hf
    h.distinct { b.set with seen := b.feed.version } h.ids t book
  have hread : EndpointSet.read factory.booked b.feed b.set =
      EndpointSet.rebuild factory.booked b.feed.instances
        { b.set with seen := b.feed.version } := by
    unfold EndpointSet.read
    rw [if_pos ⟨h.open_feed, hseen⟩]
  rw [← hread] at hrun
  obtain ⟨notes', htake⟩ := run_take_read hrun
  refine ⟨asked, _, t', notes', htake, honce, hanswers, ?_⟩
  exact
    { open_feed := h.open_feed
      instances := rfl
      distinct := h.distinct
      seen_le := Nat.le_refl _
      news_iff := by simp
      cache := rfl
      endpoints := (EndpointSet.endpoints_remade _ asked _).symm
      ids := hids }

/-- Without news, a read shows what is there, and orders nothing. -/
theorem Reading.read_again (factory : Factory τ κ) (h : Reading latest false held b) (t : τ)
    (book : Orders κ) :
    ∃ notes, (take factory .read).run (b, t, book) =
      ⟨.ok (.read (held.map (·.endpoint)) []), (b, t, book), notes⟩ := by
  have hseen : b.set.seen = b.feed.version := by
    by_contra hne
    exact Bool.false_ne_true (h.news_iff.mpr hne)
  rw [← h.endpoints]
  exact run_take_quiet factory (fun news => news.2 hseen.symm) t book

/-! ## Whole runs -/

theorem run_takeAll_cons {s s₁ s' : Backends κ × τ × Orders κ} {turn : Turn} {turns : List Turn}
    {one : Told κ} {told : List (Told κ)} {notes notes' : List Note}
    (hone : (take factory turn).run s = ⟨.ok one, s₁, notes⟩)
    (hrest : (takeAll factory turns).run s₁ = ⟨.ok told, s', notes'⟩) :
    ∃ more, (takeAll factory (turn :: turns)).run s = ⟨.ok (one :: told), s', more⟩ := by
  rw [takeAll, Act.run_bind_ok hone, Act.run_bind_ok hrest]
  exact ⟨_, rfl⟩

theorem run_takeAll (hf : factory.Returns) {turns : List Turn}
    (hturns : ∀ is, Turn.publish is ∈ turns → (is.map (·.id)).Nodup)
    (h : Reading latest news held b) (t : τ) (book : Orders κ) :
    ∃ told b' t' notes, (takeAll factory turns).run (b, t, book) =
        ⟨.ok told, (b', t', book ++ told.flatMap Told.orders), notes⟩ ∧
      told.map Told.turn = turns ∧ Follows latest news held told ∧
      factory.Answers t (told.flatMap Told.orders) t' := by
  induction turns generalizing latest news held b t book with
  | nil =>
    refine ⟨[], b, t, [], ?_, rfl, .nothing, .nil t⟩
    rw [List.flatMap_nil, List.append_nil]
    rfl
  | cons turn turns ih =>
    have hlater : ∀ is, Turn.publish is ∈ turns → (is.map (·.id)).Nodup := by
      intro is his
      exact hturns is (List.mem_cons_of_mem turn his)
    cases turn with
    | publish is =>
      have hone : (take factory (.publish is)).run (b, t, book) =
          ⟨.ok (.published is), (b.publish is, t, book), []⟩ := rfl
      obtain ⟨told, b', t', notes, hrun, hall, hfollows, hanswers⟩ :=
        ih hlater (h.published (hturns is List.mem_cons_self)) t book
      obtain ⟨more, hmore⟩ := run_takeAll_cons hone hrun
      exact ⟨_, b', t', more, hmore, congrArg _ hall, .published hfollows, hanswers⟩
    | read =>
      cases news with
      | true =>
        obtain ⟨asked, b₁, t₁, notes₁, hone, honce, hfirst, h₁⟩ := h.read_news hf t book
        obtain ⟨told, b', t', notes, hrun, hall, hfollows, hanswers⟩ :=
          ih hlater h₁ t₁ (book ++ asked)
        obtain ⟨more, hmore⟩ := run_takeAll_cons hone hrun
        rw [List.append_assoc] at hmore
        exact ⟨_, b', t', more, hmore, congrArg _ hall, .rebuilt honce hfollows,
          hfirst.append hanswers⟩
      | false =>
        obtain ⟨notes₁, hone⟩ := h.read_again factory t book
        obtain ⟨told, b', t', notes, hrun, hall, hfollows, hanswers⟩ := ih hlater h t book
        obtain ⟨more, hmore⟩ := run_takeAll_cons hone hrun
        exact ⟨_, b', t', more, hmore, congrArg _ hall, .unchanged hfollows, hanswers⟩

/-- A reader begins with what a rebuild makes of the first list. -/
theorem run_begin_of_rebuild {factory : Factory τ κ} {service : String}
    {initial : List Instance} {t t' : τ} {s' : EndpointSet κ} {notes : List Note}
    (h : (EndpointSet.rebuild factory initial { service, seen := 0 }).run t =
      ⟨.ok s', t', notes⟩) :
    ∃ notes', (begin factory initial).run (none service, t) =
      ⟨.ok (), (⟨{ instances := initial }, s', {}⟩, t'), notes'⟩ := by
  have hrenew : (renew factory fun set feed => EndpointSet.ofFeed set.service factory feed).run
      ({ none service with feed := { instances := initial } }, t) =
        ⟨.ok (), (⟨{ instances := initial }, s', {}⟩, t'), notes⟩ := run_renew h
  unfold begin
  rw [Act.run_bind_ok (Act.run_modify _ _), hrenew]
  exact ⟨_, rfl⟩

theorem run_begin (hf : factory.Returns) (service : String) {initial : List Instance}
    (hinitial : (initial.map (·.id)).Nodup) (t : τ) :
    ∃ asked b t' notes, (begin factory.booked initial).run (none service, t, []) =
        ⟨.ok (), (b, t', asked), notes⟩ ∧
      asked.map (·.1) = initial.filter (fun i => (keeps? ([] : List (Built κ)) i).isNone) ∧
      factory.Answers t asked t' ∧ Reading initial false (remade [] asked initial) b := by
  obtain ⟨asked, t', notes, hrun, honce, hanswers, hids⟩ := EndpointSet.rebuild_ordered hf
    hinitial ({ service, seen := 0 } : EndpointSet κ) (by simp) t []
  obtain ⟨notes', hbegin⟩ := run_begin_of_rebuild hrun
  refine ⟨asked, _, t', notes', hbegin, honce, hanswers, ?_⟩
  exact
    { open_feed := rfl
      instances := rfl
      distinct := hinitial
      seen_le := Nat.le_refl _
      news_iff := by simp
      cache := rfl
      endpoints := (EndpointSet.endpoints_remade [] asked initial).symm
      ids := hids }

/-! ## The law -/

/-- What is told of a reader over all its turns. -/
structure Faithful (factory : Factory τ κ) (t t' : τ) (initial : List Instance)
    (turns : List Turn) (told : List (Told κ)) : Prop where
  /-- All turns are told of, after the first read. -/
  turns_eq : told.map Told.turn = .read :: turns
  /-- A read that finds news shows, in the order of the latest list, what each instance has kept
  since the last rebuild or what the factory answers with; it asks once for every instance that
  keeps nothing. A read that finds none shows the same again and asks for nothing. -/
  follows : Follows initial true [] told
  genuine : Genuine initial [] told
  /-- The answers are the factory's own, and it was asked for nothing else. -/
  answered : factory.Answers t (told.flatMap Told.orders) t'

/-- Wherever reads fall between the lists that are published, each follows the latest of
them. -/
theorem every_read_follows_the_latest_list (hf : factory.Returns) (service : String)
    {initial : List Instance} (hinitial : (initial.map (·.id)).Nodup) {turns : List Turn}
    (hturns : ∀ is, Turn.publish is ∈ turns → (is.map (·.id)).Nodup) (t : τ) :
    ∃ told b t' notes, (attend factory initial turns).run (none service, t, []) =
        ⟨.ok told, (b, t', told.flatMap Told.orders), notes⟩ ∧
      Faithful factory t t' initial turns told := by
  obtain ⟨asked, b₀, t₀, notes₀, hbegin, honce, hfirst, h₀⟩ :=
    run_begin hf service hinitial t
  obtain ⟨told, b, t', notes, hrun, hall, hfollows, hanswers⟩ :=
    run_takeAll hf hturns h₀ t₀ asked
  have hshown : b₀.set.endpoints = initial.filterMap (comesBy [] asked) := by
    rw [h₀.endpoints, EndpointSet.endpoints_remade]
  have hwhole : Follows initial true [] (.read b₀.set.endpoints asked :: told) := by
    rw [hshown]
    exact .rebuilt honce hfollows
  have hattend : ∃ notes', (attend factory initial turns).run (none service, t, []) =
      ⟨.ok (.read b₀.set.endpoints asked :: told),
        (b, t', asked ++ told.flatMap Told.orders), notes'⟩ := by
    unfold attend
    rw [Act.run_bind_ok hbegin, Act.run_bind_ok (Act.run_get _)]
    simp only
    rw [Act.run_bind_ok hrun]
    exact ⟨_, rfl⟩
  obtain ⟨notes', hattend⟩ := hattend
  refine ⟨.read b₀.set.endpoints asked :: told, b, t', notes', hattend, ?_⟩
  exact
    { turns_eq := congrArg _ hall
      follows := hwhole
      genuine := hwhole.genuine (by simp [Held]) (by simp)
      answered := hfirst.append hanswers }

/-- Fails for the first order, and builds endpoints with numbers for all others. -/
def lateStarter : Factory Nat Nat := fun _ => do
  let asked ← Act.get
  Act.modify (· + 1)
  return if asked = 0 then .error (.unavailable "not yet") else .ok asked

def adder (id : String) (port : Nat) : Instance := ⟨id, "add", "127.0.0.1", port, Option.none, []⟩

/-- An instance comes up late, is joined by a second one, and moves to another port. -/
def adders : List Turn :=
  [.read, .publish [adder "a" 80], .read, .publish [adder "b" 80],
    .publish [adder "b" 80, adder "a" 80], .read, .publish [adder "b" 80, adder "a" 81], .read,
    .read]

theorem a_late_starter_is_asked_again :
    ∃ told b t' notes, (attend lateStarter [adder "a" 80] adders).run (none "add", 0, []) =
        ⟨.ok told, (b, t', told.flatMap Told.orders), notes⟩ ∧
      told.flatMap Told.orders = [(adder "a" 80, .error (.unavailable "not yet")),
        (adder "a" 80, .ok 1), (adder "b" 80, .ok 2), (adder "a" 81, .ok 3)] ∧
      Faithful lateStarter 0 t' [adder "a" 80] adders told := by
  have hf : lateStarter.Returns := fun i t => ⟨_, rfl⟩
  have hinitial : ([adder "a" 80].map (·.id)).Nodup := by decide
  have hturns : ∀ is, Turn.publish is ∈ adders → (is.map (·.id)).Nodup := by
    simp [adders, adder]
  obtain ⟨told, b, t', notes, hrun, h⟩ :=
    every_read_follows_the_latest_list hf "add" hinitial hturns 0
  refine ⟨told, b, t', notes, hrun, ?_, h⟩
  have hbook : ((attend lateStarter [adder "a" 80] adders).run (none "add", 0, [])).state.2.2 =
      [(adder "a" 80, .error (.unavailable "not yet")), (adder "a" 80, .ok 1),
        (adder "b" 80, .ok 2), (adder "a" 81, .ok 3)] := by decide +kernel
  rw [← hbook, hrun]

end ServiceMesh.Backends
