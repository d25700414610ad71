-- Calls through middlewares, with a record of where each call goes in and comes out: in through
-- the layers in the order in which they were added, and out through them in reverse.
import ServiceMesh.Endpoint.Middleware

namespace ServiceMesh

variable {σ α β γ : Type}

/-! ## Adding and building -/

namespace Stack

/-- How a layer was added: as one at hand, or as one that may be missing. -/
inductive Addition (L : Type) where
  | add (l : L)
  | addOpt (l? : Option L)

namespace Addition

variable {L M : Type}

def layer? : Addition L → Option L
  | .add l => some l
  | .addOpt l? => l?

def map (f : L → M) : Addition L → Addition M
  | .add l => .add (f l)
  | .addOpt l? => .addOpt (l?.map f)

theorem layer?_map (f : L → M) (a : Addition L) : (a.map f).layer? = a.layer?.map f := by
  cases a <;> rfl

end Addition

def after (stack : Stack σ α β) : Addition (Middleware σ α β) → Stack σ α β
  | .add m => stack.add m
  | .addOpt m? => stack.addOpt m?

/-- The stack after some additions. -/
def of (additions : List (Addition (Middleware σ α β))) : Stack σ α β :=
  additions.foldl after empty

theorem layers_after (stack : Stack σ α β) (a : Addition (Middleware σ α β)) :
    (stack.after a).layers = stack.layers ++ a.layer?.toList := by
  cases a with
  | add m => rfl
  | addOpt m? =>
    cases m? with
    | none => exact (List.append_nil _).symm
    | some m => rfl

/-- The layers are those that were at hand, in the order in which they were added. -/
theorem of_eq (additions : List (Addition (Middleware σ α β))) :
    of additions = ⟨additions.filterMap Addition.layer?⟩ := by
  have hrun : ∀ stack : Stack σ α β, (additions.foldl after stack).layers =
      stack.layers ++ additions.filterMap Addition.layer? := by
    induction additions with
    | nil => exact fun stack => (List.append_nil _).symm
    | cons a additions ih =>
      intro stack
      rw [List.foldl_cons, ih, layers_after, List.filterMap_cons, List.append_assoc]
      cases a.layer? <;> rfl
  exact congrArg Stack.mk (hrun empty)

theorem of_map_eq {L : Type} (f : L → Middleware σ α β) (additions : List (Addition L)) :
    of (additions.map (Addition.map f)) =
      ⟨(additions.filterMap Addition.layer?).map f⟩ := by
  rw [of_eq, List.filterMap_map, List.map_filterMap]
  simp only [Function.comp_def, Addition.layer?_map]

theorem build_nil (inner : Endpoint σ α β) : (⟨[]⟩ : Stack σ α β).build inner = inner := rfl

/-- The first layer is put around all that the others make. -/
theorem build_cons (m : Middleware σ α β) (ms : List (Middleware σ α β))
    (inner : Endpoint σ α β) :
    (⟨m :: ms⟩ : Stack σ α β).build inner = m.wrap ((⟨ms⟩ : Stack σ α β).build inner) := by
  unfold build
  rw [List.reverse_cons, List.foldl_append]
  rfl

end Stack

namespace Act

theorem run_releasing_ok {a : Act σ α} {drop : Act σ Unit} {s s' : σ} {x : α} {notes : List Note}
    (h : a.run s = ⟨.ok x, s', notes⟩) : (a.releasing drop).run s = ⟨.ok x, s', notes⟩ := by
  change a s = _ at h
  change a.releasing drop s = _
  unfold releasing
  rw [h]

theorem run_releasing_error {a : Act σ α} {drop : Act σ Unit} {s s' : σ} {c : Crash}
    {notes : List Note} (h : a.run s = ⟨.error c, s', notes⟩) :
    (a.releasing drop).run s =
      ⟨.error c, (drop.run s').state, notes ++ (drop.run s').notes⟩ := by
  change a s = _ at h
  change a.releasing drop s = _
  unfold releasing
  rw [h]
  rfl

end Act

/-! ## The record of a call -/

/-- A layer that hands on each call once at most. -/
structure Layered (σ α β : Type) where
  name : String
  decide : α → Act σ (Treatment σ α β)

def Layered.middleware (l : Layered σ α β) : Middleware σ α β := .deciding l.decide

/-- What is recorded of a call. -/
inductive Mark (β : Type) where
  /-- It went in at a layer. -/
  | entered (name : String)
  /-- It has come to the inner endpoint. -/
  | reached
  /-- It came out at a layer, which sees this result. -/
  | left (name : String) (seen : Except Failure β)

/-- A state, and what was recorded beside it. -/
abbrev Recorded (σ β : Type) : Type := σ × List (Mark β)

/-- Writes a mark into the record. -/
def keepMark (mark : Mark β) : Act (Recorded σ β) Unit := Act.modify fun s => (s.1, s.2 ++ [mark])

/-- An act beside the record. -/
def beside (a : Act σ γ) : Act (Recorded σ β) γ := a.on Prod.fst fun s all => (s, all.2)

/-- What a layer makes of a call, with a record of where the call comes out. -/
def Treatment.recorded (name : String) : Treatment σ α β → Treatment (Recorded σ β) α β
  | .refuse r => .refuse r
  | .delegate y out drop =>
    .delegate y (fun r => do keepMark (.left name r); beside (out r)) (beside drop)

/-- A layer, with a record of the calls that go in and come out. -/
def Layered.recorded (l : Layered σ α β) : Layered (Recorded σ β) α β where
  name := l.name
  decide x := do
    keepMark (.entered l.name)
    return (← beside (l.decide x)).recorded l.name

/-- An endpoint, with a record of the calls that come to it. -/
def Endpoint.recorded (inner : Endpoint σ α β) : Endpoint (Recorded σ β) α β := fun x => do
  keepMark .reached
  beside (inner x)

/-- The layers around an endpoint, all of them with a record. -/
def recordedCall (layers : List (Layered σ α β)) (inner : Endpoint σ α β) :
    Endpoint (Recorded σ β) α β :=
  (⟨layers.map fun l => l.recorded.middleware⟩ : Stack _ α β).build (Endpoint.recorded inner)

/-! ## Where a call turns round -/

/-- Where a call turns round, and with which result. -/
inductive Turn (σ α β : Type) where
  | inner (r : Except Failure β)
  | refusal (l : Layered σ α β) (r : Except Failure β)

namespace Turn

/-- The layer that has refused the call. -/
def layers : Turn σ α β → List (Layered σ α β)
  | .inner _ => []
  | .refusal l _ => [l]

def result : Turn σ α β → Except Failure β
  | .inner r => r
  | .refusal _ r => r

def mark : Turn σ α β → Mark β
  | .inner _ => .reached
  | .refusal l _ => .entered l.name

end Turn

/-- A layer that a call goes through, and the result that it sees. -/
structure Pass (σ α β : Type) where
  layer : Layered σ α β
  seen : Except Failure β

/-- All that is recorded of a call: the layers that it goes through, where it turns round, and
the same layers in reverse. -/
def marksOf (through : List (Pass σ α β)) (turn : Turn σ α β) : List (Mark β) :=
  through.map (fun p => .entered p.layer.name) ++ [turn.mark] ++
    through.reverse.map fun p => .left p.layer.name p.seen

/-- The marks of the outermost layer stand around those of the others. -/
theorem marksOf_cons (p : Pass σ α β) (through : List (Pass σ α β)) (turn : Turn σ α β) :
    marksOf (p :: through) turn =
      .entered p.layer.name :: (marksOf through turn ++ [.left p.layer.name p.seen]) := by
  simp [marksOf]

/-! ## How a call goes -/

/-- A layer has refused a call so. -/
def Layered.Refuses (l : Layered σ α β) (r : Except Failure β) : Prop :=
  ∃ x s s' notes, (l.decide x).run s = ⟨.ok (.refuse r), s', notes⟩

/-- A layer has handed on a call so. -/
def Layered.Delegates (l : Layered σ α β) (out : Except Failure β → Act σ (Except Failure β)) :
    Prop :=
  ∃ x s y drop s' notes, (l.decide x).run s = ⟨.ok (.delegate y out drop), s', notes⟩

/-- A layer gives the result that it sees, whatever it is. -/
def Layered.HandsOn (l : Layered σ α β) : Prop :=
  ∀ out, l.Delegates out → ∀ seen s r s' notes, (out seen).run s = ⟨.ok r, s', notes⟩ → r = seen

/-- A turn has come about so. -/
def Turn.Happens (inner : Endpoint σ α β) : Turn σ α β → Prop
  | .inner r => ∃ x s s' notes, (inner x).run s = ⟨.ok r, s', notes⟩
  | .refusal l r => l.Refuses r

/-- How a call goes that comes to its end. -/
structure Course (layers : List (Layered σ α β)) (inner : Endpoint σ α β)
    (through : List (Pass σ α β)) (turn : Turn σ α β) (behind : List (Layered σ α β))
    (r : Except Failure β) : Prop where
  /-- It goes through the first layers up to where it turns round. -/
  layers_eq : layers = through.map (·.layer) ++ turn.layers ++ behind
  /-- It comes to the inner endpoint only if no layer is left. -/
  behind_eq : turn.layers = [] → behind = []
  turns : turn.Happens inner
  delegates : ∀ p ∈ through, ∃ out, p.layer.Delegates out
  /-- The last layer that it goes through sees the result of the turn. -/
  innermost : ∀ p ∈ through.getLast?, p.seen = turn.result
  /-- If none of the layers makes another result of the one it sees, all of them see it. -/
  all_see : (∀ p ∈ through, p.layer.HandsOn) →
    r = turn.result ∧ ∀ p ∈ through, p.seen = turn.result

variable {layers behind : List (Layered σ α β)} {l : Layered σ α β} {inner : Endpoint σ α β}
  {through : List (Pass σ α β)} {turn : Turn σ α β} {r seen : Except Failure β} {x y : α}
  {out : Except Failure β → Act σ (Except Failure β)} {drop : Act σ Unit} {s s' s₁ : σ}
  {notes : List Note} {c : Crash} {d : Except Crash (Treatment σ α β)}

theorem Course.of_inner (h : (inner x).run s = ⟨.ok r, s', notes⟩) :
    Course [] inner [] (.inner r) [] r where
  layers_eq := rfl
  behind_eq _ := rfl
  turns := ⟨x, s, s', notes, h⟩
  delegates _ hp := nomatch hp
  innermost _ hp := nomatch hp
  all_see _ := ⟨rfl, fun _ hp => nomatch hp⟩

theorem Course.of_refusal (behind : List (Layered σ α β))
    (h : (l.decide x).run s = ⟨.ok (.refuse r), s', notes⟩) :
    Course (l :: behind) inner [] (.refusal l r) behind r where
  layers_eq := rfl
  behind_eq h := nomatch h
  turns := ⟨x, s, s', notes, h⟩
  delegates _ hp := nomatch hp
  innermost _ hp := nomatch hp
  all_see _ := ⟨rfl, fun _ hp => nomatch hp⟩

/-- A layer that hands on a call goes in front of the course of what it hands on. -/
theorem Course.cons (h : Course layers inner through turn behind seen) (hl : l.Delegates out)
    (hout : (out seen).run s = ⟨.ok r, s', notes⟩) :
    Course (l :: layers) inner (⟨l, seen⟩ :: through) turn behind r where
  layers_eq := by rw [h.layers_eq]; rfl
  behind_eq := h.behind_eq
  turns := h.turns
  delegates p hp := by
    rcases List.mem_cons.mp hp with rfl | hp
    · exact ⟨out, hl⟩
    · exact h.delegates p hp
  innermost p hp := by
    cases through with
    | nil =>
      cases hp
      exact (h.all_see fun _ hp => nomatch hp).1
    | cons q through => exact h.innermost p hp
  all_see hands := by
    obtain ⟨hseen, hall⟩ := h.all_see fun p hp => hands p (List.mem_cons_of_mem _ hp)
    have hr : r = seen := hands _ List.mem_cons_self out hl seen s r s' notes hout
    refine ⟨hr.trans hseen, fun p hp => ?_⟩
    rcases List.mem_cons.mp hp with rfl | hp
    · exact hseen
    · exact hall p hp

/-! ## One layer with its record -/

theorem run_keepMark (mark : Mark β) (s : σ) (log : List (Mark β)) :
    (keepMark mark).run (s, log) = ⟨.ok (), (s, log ++ [mark]), []⟩ := rfl

theorem run_beside (a : Act σ γ) (s : σ) (log : List (Mark β)) :
    (beside a).run (s, log) = ⟨(a.run s).result, ((a.run s).state, log), (a.run s).notes⟩ := rfl

/-- A layer records that a call goes in before it looks at it. -/
theorem run_recorded_decide (h : (l.decide x).run s = ⟨d, s₁, notes⟩) (log : List (Mark β)) :
    (l.recorded.decide x).run (s, log) =
      ⟨d.map (Treatment.recorded l.name), (s₁, log ++ [.entered l.name]), notes⟩ := by
  have hbeside : (beside (l.decide x)).run (s, log ++ [.entered l.name]) =
      ⟨d, (s₁, log ++ [.entered l.name]), notes⟩ := by
    rw [run_beside, h]
  unfold Layered.recorded
  simp only
  rw [Act.run_bind_ok (run_keepMark _ _ _)]
  cases d with
  | error c =>
    rw [Act.run_bind_error _ hbeside]
    rfl
  | ok t =>
    rw [Act.run_bind_ok hbeside, Act.run_pure, List.append_nil]
    rfl

/-! ## All calls -/

/-- What is recorded of a call, if it comes to its end and if it breaks off. -/
def Told (layers : List (Layered σ α β)) (inner : Endpoint σ α β) (log : List (Mark β))
    (o : Outcome (Recorded σ β) (Except Failure β)) : Prop :=
  match o.result with
  | .ok r => ∃ through turn behind, Course layers inner through turn behind r ∧
      o.state.2 = log ++ marksOf through turn
  | .error _ => ∃ through turn behind, layers = through.map (·.layer) ++ turn.layers ++ behind ∧
      ∃ some_marks, some_marks <+: marksOf through turn ∧ o.state.2 = log ++ some_marks

theorem told_of_inner (inner : Endpoint σ α β) (x : α) (s : σ) (log : List (Mark β)) :
    Told [] inner log ((Endpoint.recorded inner x).run (s, log)) := by
  rcases hrun : (inner x).run s with ⟨c | r, s₁, notes⟩
  all_goals
    have hrecorded : (Endpoint.recorded inner x).run (s, log) =
        ⟨((inner x).run s).result, (((inner x).run s).state, log ++ [.reached]),
          ((inner x).run s).notes⟩ := rfl
    rw [hrecorded, hrun]
  · exact ⟨[], .inner (.error (.internal "")), [], rfl, [.reached], List.prefix_refl _, rfl⟩
  · exact ⟨[], .inner r, [], .of_inner hrun, rfl⟩

theorem Told.broken (through : List (Pass σ α β)) (turn : Turn σ α β)
    (behind : List (Layered σ α β)) (more : List (Mark β)) {log : List (Mark β)}
    {o : Outcome (Recorded σ β) (Except Failure β)} (hresult : o.result = .error c)
    (hlayers : layers = through.map (·.layer) ++ turn.layers ++ behind)
    (hmore : more <+: marksOf through turn) (hlog : o.state.2 = log ++ more) :
    Told layers inner log o := by
  unfold Told
  rw [hresult]
  exact ⟨through, turn, behind, hlayers, more, hmore, hlog⟩

theorem Told.ended {log : List (Mark β)} {o : Outcome (Recorded σ β) (Except Failure β)}
    (hresult : o.result = .ok r) (h : Course layers inner through turn behind r)
    (hlog : o.state.2 = log ++ marksOf through turn) : Told layers inner log o := by
  unfold Told
  rw [hresult]
  exact ⟨through, turn, behind, h, hlog⟩

/-- What is told of a call that a layer hands on goes on from what is told of it inside. -/
theorem Told.cons {log : List (Mark β)} {a : Act (Recorded σ β) (Except Failure β)}
    (hl : (l.decide x).run s = ⟨.ok (.delegate y out drop), s', notes⟩)
    (h : Told layers inner (log ++ [.entered l.name]) (a.run (s₁, log ++ [.entered l.name]))) :
    Told (l :: layers) inner log ((do
      let r ← a.releasing (beside drop)
      keepMark (.left l.name r)
      beside (out r)).run (s₁, log ++ [Mark.entered l.name])) := by
  rcases hrun : a.run (s₁, log ++ [.entered l.name]) with ⟨c | seen, ⟨s₂, log₂⟩, notes₂⟩ <;>
    rw [hrun] at h
  · obtain ⟨through, turn, behind, hlayers, more, hmore, hlog⟩ := h
    rw [Act.run_bind_error _ (Act.run_releasing_error hrun)]
    refine .broken (⟨l, .error (.internal "")⟩ :: through) turn behind (.entered l.name :: more)
      rfl ?_ ?_ ?_
    · rw [hlayers]
      rfl
    · rw [marksOf_cons]
      exact (List.prefix_cons_inj _).mpr (hmore.trans (List.prefix_append _ _))
    · change log₂ = _
      simp only at hlog
      rw [hlog, List.append_assoc]
      rfl
  · obtain ⟨through, turn, behind, hcourse, hlog⟩ := h
    rw [Act.run_bind_ok (Act.run_releasing_ok hrun), Act.run_bind_ok (run_keepMark _ _ _),
      run_beside]
    have hmarks : log₂ ++ [.left l.name seen] = log ++ marksOf (⟨l, seen⟩ :: through) turn := by
      simp only at hlog
      rw [hlog, marksOf_cons]
      simp
    rcases hout : (out seen).run s₂ with ⟨c | r, s₃, notes₃⟩
    · exact .broken _ turn behind _ rfl (by rw [hcourse.layers_eq]; rfl) (List.prefix_refl _)
        hmarks
    · exact .ended rfl (hcourse.cons ⟨x, s, y, drop, s', notes, hl⟩ hout) hmarks

/-- Every call is told of: through the first layers, round, and back through the same layers. -/
theorem told_recordedCall (layers : List (Layered σ α β)) (inner : Endpoint σ α β) (x : α) (s : σ)
    (log : List (Mark β)) : Told layers inner log ((recordedCall layers inner x).run (s, log)) := by
  induction layers generalizing x s log with
  | nil => exact told_of_inner inner x s log
  | cons l layers ih =>
    unfold recordedCall
    rw [List.map_cons, Stack.build_cons]
    change Told _ _ _ (((l.recorded.decide x) >>= _).run (s, log))
    rcases hrun : (l.decide x).run s with ⟨c | t, s₁, notes⟩
    · rw [Act.run_bind_error _ (run_recorded_decide hrun log)]
      exact .broken [] (.refusal l (.error (.internal ""))) layers _ rfl rfl
        (List.prefix_refl _) rfl
    rw [Act.run_bind_ok (run_recorded_decide hrun log)]
    cases t with
    | refuse r => exact .ended rfl (.of_refusal layers hrun) rfl
    | delegate y out drop => exact (ih y s₁ (log ++ [.entered l.name])).cons hrun

end ServiceMesh
