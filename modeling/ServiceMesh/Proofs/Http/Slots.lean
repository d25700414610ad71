-- Where the request ids are while requests are served at the same time: in the slot of a thread
-- stands the id of the task that it works at, and nothing while it works at none.
import ServiceMesh.Proofs.Http.RequestIds

namespace ServiceMesh.Http

variable {σ κ : Type}

/-! ## What holds of each task -/

/-- A task that serves a request has a place for its id; any other has neither. -/
inductive Placed : (hasPlace : Bool) → (header? : Option String) → Prop
  | request {id : String} (h : IsRequestId id) : Placed true (some id)
  | background : Placed false none

structure Task.Sound (task : Task κ) : Prop where
  placed : Placed task.hasPlace task.header?
  /-- While no thread works at it, it keeps its id. -/
  kept : task.running = false → task.kept = task.header?
  /-- While a thread does, it keeps what was in the slot of the thread: nothing. -/
  lent : task.running = true → task.kept = none
  /-- Its response carries its id, and no other. -/
  answered : ∀ response, task.response? = some response → ∀ id, task.header? = some id →
    response.headers.filter (·.1 == "x-request-id") = [("x-request-id", id)]

namespace Task

variable {task : Task κ} {id : String}

theorem sound_serving (h : IsRequestId id) (k : κ) : (serving id k).Sound where
  placed := by
    unfold serving
    rw [h.headerValue?]
    exact .request h
  kept _ := h.headerValue?.symm
  lent hrunning := nomatch hrunning
  answered _ hresponse := nomatch hresponse

theorem sound_background (k : κ) : (background k).Sound where
  placed := .background
  kept _ := rfl
  lent hrunning := nomatch hrunning
  answered _ hresponse := nomatch hresponse

/-- A response that goes out carries the id of its task once. -/
theorem ids_respond (h : task.header? = some id) (response : Response) :
    (task.respond response).headers.filter (·.1 == "x-request-id") = [("x-request-id", id)] := by
  unfold respond
  rw [h]
  have hothers : (response.headers.filter (·.1 != "x-request-id")).filter
      (·.1 == "x-request-id") = [] := by
    rw [List.filter_filter, List.filter_eq_nil_iff]
    intro header _
    simp
  simp only [List.filter_append, hothers]
  rfl

theorem Sound.isRequestId (h : task.Sound) (hid : task.header? = some id) : IsRequestId id := by
  have hplaced := h.placed
  rw [hid] at hplaced
  generalize task.hasPlace = hasPlace at hplaced
  cases hplaced with
  | request h => exact h

theorem Sound.went (h : task.Sound) (next : κ ⊕ Response) : (task.went next).Sound := by
  cases next with
  | inl k => exact ⟨h.placed, h.kept, h.lent, fun _ hresponse => nomatch hresponse⟩
  | inr response =>
    refine ⟨h.placed, h.kept, h.lent, ?_⟩
    intro sent hsent id hid
    cases hsent
    exact ids_respond hid response

theorem Sound.broke (h : task.Sound) (c : Crash) :
    ({ task with progress := .broken c } : Task κ).Sound :=
  ⟨h.placed, h.kept, h.lent, fun _ hresponse => nomatch hresponse⟩

/-- A thread that takes up a task finds its id, and the task keeps nothing. -/
theorem Sound.swap_in (h : task.Sound) (hfree : task.running = false) :
    (task.swap none).1 = task.header? ∧
      ({ (task.swap none).2 with running := true } : Task κ).Sound := by
  obtain ⟨header?, hasPlace, kept, running, progress⟩ := task
  have hkept : kept = header? := h.kept hfree
  have hplaced : Placed hasPlace header? := h.placed
  cases hplaced with
  | request hid =>
    refine ⟨hkept, .request hid, ?_, fun _ => rfl, h.answered⟩
    intro hrunning
    cases hrunning
  | background =>
    refine ⟨rfl, .background, ?_, fun _ => hkept, h.answered⟩
    intro hrunning
    cases hrunning

/-- A thread that leaves a task gives its id back, and has none any more. -/
theorem Sound.swap_out (h : task.Sound) (hrunning : task.running = true) :
    (task.swap task.header?).1 = none ∧
      ({ (task.swap task.header?).2 with running := false } : Task κ).Sound := by
  obtain ⟨header?, hasPlace, kept, running, progress⟩ := task
  have hlent : kept = none := h.lent hrunning
  have hplaced : Placed hasPlace header? := h.placed
  cases hplaced with
  | request hid =>
    refine ⟨hlent, .request hid, fun _ => rfl, ?_, h.answered⟩
    intro hfree
    cases hfree
  | background =>
    refine ⟨rfl, .background, fun _ => hlent, ?_, h.answered⟩
    intro hfree
    cases hfree

theorem header?_swap (slot : Option String) : (task.swap slot).2.header? = task.header? := by
  unfold swap
  split <;> rfl

theorem header?_went (next : κ ⊕ Response) : (task.went next).header? = task.header? := by
  cases next <;> rfl

theorem running_went (next : κ ⊕ Response) : (task.went next).running = task.running := by
  cases next <;> rfl

end Task

/-! ## What holds of all -/

/-- A fresh id is a random one. -/
def Event.Random : Event κ → Prop
  | .arrive fresh _ => Text.isRandomId fresh = true
  | _ => True

namespace Serving

/-- The id of a task, if it is there and serves a request. -/
def id? (w : Serving σ κ) (i : Nat) : Option String := w.tasks[i]?.bind (·.header?)

structure Sound (w : Serving σ κ) : Prop where
  tasks : ∀ task ∈ w.tasks, task.Sound
  /-- A thread that works at no task has no id. -/
  idle : ∀ t, (w.threads t).task? = none → (w.threads t).slot = none
  /-- A thread that works at a task has the id of that task. -/
  busy : ∀ t i, (w.threads t).task? = some i →
    ∃ task, w.tasks[i]? = some task ∧ task.running = true ∧ (w.threads t).slot = task.header?
  /-- No two threads work at one task. -/
  one : ∀ t u i, (w.threads t).task? = some i → (w.threads u).task? = some i → t = u
  seen : ∀ i current, (i, current) ∈ w.seen → i < w.tasks.length ∧ current = w.id? i
  sent : ∀ i m, (i, m) ∈ w.sent → i < w.tasks.length ∧ m.requestId? = w.id? i

/-- The ids of all tasks, in order. -/
def ids (w : Serving σ κ) : List (Option String) := w.tasks.map (·.header?)

variable {w w' : Serving σ κ} {task : Task κ} {t i j : Nat}

theorem id?_of_get (h : w.tasks[i]? = some task) : w.id? i = task.header? := by
  unfold id?
  rw [h]
  rfl

theorem lt_of_get (h : w.tasks[i]? = some task) : i < w.tasks.length :=
  (List.getElem?_eq_some_iff.mp h).1

theorem id?_eq (w : Serving σ κ) (i : Nat) : w.id? i = w.ids[i]?.join := by
  unfold id? ids
  rw [List.getElem?_map]
  cases w.tasks[i]? <;> rfl

/-- A task keeps its id as long as ids are only added. -/
theorem id?_of_begins (h : w.ids <+: w'.ids) (hi : i < w.tasks.length) :
    w'.id? i = w.id? i := by
  obtain ⟨more, hmore⟩ := h
  have hlt : i < w.ids.length := by
    unfold ids
    rw [List.length_map]
    exact hi
  rw [id?_eq, id?_eq, ← hmore, List.getElem?_append_left hlt]

theorem begins_of_eq (h : w'.ids = w.ids) : w.ids <+: w'.ids := h ▸ List.prefix_rfl

/-- What was told of a task's id stays true. -/
theorem told_lasts {x : Option String} (h : w.ids <+: w'.ids)
    (htold : i < w.tasks.length ∧ x = w.id? i) : i < w'.tasks.length ∧ x = w'.id? i := by
  have hlength : w.tasks.length ≤ w'.tasks.length := by
    simpa [ids] using h.length_le
  rw [id?_of_begins h htold.1]
  exact ⟨Nat.lt_of_lt_of_le htold.1 hlength, htold.2⟩

theorem sound_start (shared : σ) : Sound ({ shared } : Serving σ κ) where
  tasks _ h := nomatch h
  idle _ _ := rfl
  busy _ _ h := nomatch h
  one _ _ _ h := nomatch h
  seen _ _ h := nomatch h
  sent _ _ h := nomatch h

/-! ### More tasks -/

theorem ids_append (w : Serving σ κ) (more : List (Task κ)) :
    w.ids <+: ({ w with tasks := w.tasks ++ more } : Serving σ κ).ids := by
  unfold ids
  rw [List.map_append]
  exact List.prefix_append _ _

theorem Sound.append (h : w.Sound) {more : List (Task κ)} (hmore : ∀ task ∈ more, task.Sound) :
    Sound { w with tasks := w.tasks ++ more } where
  tasks task htask := (List.mem_append.mp htask).elim (h.tasks task) (hmore task)
  idle := h.idle
  busy t i hbusy := by
    obtain ⟨task, htask, hrest⟩ := h.busy t i hbusy
    refine ⟨task, ?_, hrest⟩
    simp only
    rw [List.getElem?_append_left (lt_of_get htask)]
    exact htask
  one := h.one
  seen i current hseen := told_lasts (ids_append w more) (h.seen i current hseen)
  sent i m hsent := told_lasts (ids_append w more) (h.sent i m hsent)

/-! ### Another task in the place of one -/

theorem ids_put (hi : w.tasks[i]? = some task) (task' : Task κ)
    (hheader : task'.header? = task.header?) (threads : Nat → Thread) :
    ({ w with threads, tasks := w.tasks.set i task' } : Serving σ κ).ids = w.ids := by
  unfold ids
  rw [List.map_set, hheader]
  apply List.ext_getElem?
  intro j
  rw [List.getElem?_set]
  by_cases hij : i = j
  · subst hij
    rw [if_pos rfl, if_pos (by simpa using lt_of_get hi), List.getElem?_map, hi]
    rfl
  · rw [if_neg hij]

theorem id?_put (hi : w.tasks[i]? = some task) (task' : Task κ)
    (hheader : task'.header? = task.header?) (threads : Nat → Thread) (j : Nat) :
    ({ w with threads, tasks := w.tasks.set i task' } : Serving σ κ).id? j = w.id? j := by
  rw [id?_eq, id?_eq, ids_put hi task' hheader]

theorem Sound.tasks_set (h : w.Sound) {task' : Task κ} (hsound : task'.Sound) :
    ∀ x ∈ w.tasks.set i task', x.Sound := by
  intro x hx
  rcases List.mem_or_eq_of_mem_set hx with hx | rfl
  · exact h.tasks x hx
  · exact hsound

/-- A thread and a task change together. No other thread works at that task, and the thread then
works at it under its id, or at none and has none. -/
theorem Sound.put (h : w.Sound) (hi : w.tasks[i]? = some task)
    (hothers : ∀ u, u ≠ t → (w.threads u).task? ≠ some i) {task' : Task κ}
    (hsound : task'.Sound) (hheader : task'.header? = task.header?) {thread : Thread}
    (hthread : thread = {} ∨ thread = ⟨task.header?, some i⟩ ∧ task'.running = true) :
    Sound { w with threads := w.setThread t thread, tasks := w.tasks.set i task' } := by
  have hself : w.setThread t thread t = thread := if_pos rfl
  have hrest : ∀ u, u ≠ t → w.setThread t thread u = w.threads u := fun u hut => if_neg hut
  -- after the change a thread is `t` at `i`, or another one where it was
  have hat : ∀ u j, (w.setThread t thread u).task? = some j →
      u = t ∧ j = i ∨ u ≠ t ∧ (w.threads u).task? = some j := by
    intro u j hu
    by_cases hut : u = t
    · subst hut
      rw [hself] at hu
      rcases hthread with rfl | ⟨rfl, _⟩
      · cases hu
      · cases hu
        exact Or.inl ⟨rfl, rfl⟩
    · rw [hrest u hut] at hu
      exact Or.inr ⟨hut, hu⟩
  have hlasts := begins_of_eq (ids_put hi task' hheader (w.setThread t thread))
  constructor
  case tasks => exact h.tasks_set hsound
  case idle =>
    intro u hidle
    by_cases hut : u = t
    · subst hut
      simp only [hself] at hidle ⊢
      rcases hthread with rfl | ⟨rfl, _⟩
      · rfl
      · cases hidle
    · simp only [hrest u hut] at hidle ⊢
      exact h.idle u hidle
  case busy =>
    intro u j hbusy
    rcases hat u j hbusy with ⟨rfl, rfl⟩ | ⟨hut, hu⟩
    · simp only [hself] at hbusy ⊢
      rcases hthread with rfl | ⟨rfl, hrunning⟩
      · cases hbusy
      · exact ⟨task', List.getElem?_set_self (lt_of_get hi), hrunning, hheader.symm⟩
    · have hij : i ≠ j := by
        rintro rfl
        exact hothers u hut hu
      simp only [hrest u hut]
      rw [List.getElem?_set_ne hij]
      exact h.busy u j hu
  case one =>
    intro u v j hu hv
    rcases hat u j hu, hat v j hv with ⟨⟨hut, hji⟩ | ⟨hut, hu'⟩, ⟨hvt, hji'⟩ | ⟨hvt, hv'⟩⟩
    · rw [hut, hvt]
    · exact absurd (hji ▸ hv') (hothers v hvt)
    · exact absurd (hji' ▸ hu') (hothers u hut)
    · exact h.one u v j hu' hv'
  case seen => exact fun j current hseen => told_lasts hlasts (h.seen j current hseen)
  case sent => exact fun j m hsent => told_lasts hlasts (h.sent j m hsent)

theorem Sound.slot_of_busy (h : w.Sound) (ht : (w.threads t).task? = some i)
    (hi : w.tasks[i]? = some task) :
    task.running = true ∧ (w.threads t).slot = task.header? := by
  obtain ⟨task', hi', hrest⟩ := h.busy t i ht
  rw [hi] at hi'
  cases hi'
  exact hrest

/-! ### What is seen and sent -/

/-- A task sees its own id, and sends it. -/
theorem Sound.tell (h : w.Sound) (hi : i < w.tasks.length) {current : Option String}
    (hcurrent : w.id? i = current) (hid : ∀ id, current = some id → IsRequestId id)
    (calls : List (Option Trace.Context)) (shared : σ) (notes : List Note) :
    Sound { w with
      shared, notes
      seen := w.seen ++ [(i, current)]
      sent := w.sent ++ calls.map fun span => (i, Trace.propagate span current []) } where
  tasks := h.tasks
  idle := h.idle
  busy := h.busy
  one := h.one
  seen j c hseen := by
    rcases List.mem_append.mp hseen with hseen | hseen
    · exact h.seen j c hseen
    · cases List.mem_singleton.mp hseen
      exact ⟨hi, hcurrent.symm⟩
  sent j m hsent := by
    rcases List.mem_append.mp hsent with hsent | hsent
    · exact h.sent j m hsent
    · obtain ⟨span, _, hspan⟩ := List.mem_map.mp hsent
      cases hspan
      refine ⟨hi, ?_⟩
      change (Trace.propagate span current []).requestId? = w.id? i
      rw [hcurrent]
      cases hc : current with
      | none => exact requestId?_propagate_none span []
      | some id => exact (hid id hc).requestId?_propagate span []

/-! ## What a step can do -/

variable {p : Program σ κ}

/-- An idle thread takes up a task that no thread works at, or nothing happens. -/
theorem enter_cases (w : Serving σ κ) (t i : Nat) :
    w.enter t i = w ∨ ∃ task, w.tasks[i]? = some task ∧ (w.threads t).task? = none ∧
      task.running = false ∧ w.enter t i = { w with
        threads := w.setThread t ⟨(task.swap (w.threads t).slot).1, some i⟩
        tasks := w.tasks.set i { (task.swap (w.threads t).slot).2 with running := true } } := by
  unfold enter
  cases hi : w.tasks[i]? with
  | none => exact Or.inl rfl
  | some task =>
    simp only
    split
    · rename_i hfree
      rw [Bool.and_eq_true, Option.isNone_iff_eq_none, Bool.not_eq_true'] at hfree
      exact Or.inr ⟨task, rfl, hfree.1, hfree.2, rfl⟩
    · exact Or.inl rfl

/-- A thread leaves its task, or nothing happens. -/
theorem leave_cases (w : Serving σ κ) (t : Nat) :
    w.leave t = w ∨ ∃ i task, (w.threads t).task? = some i ∧ w.tasks[i]? = some task ∧
      w.leave t = { w with
        threads := w.setThread t ⟨(task.swap (w.threads t).slot).1, none⟩
        tasks := w.tasks.set i { (task.swap (w.threads t).slot).2 with running := false } } := by
  unfold leave
  cases ht : (w.threads t).task? with
  | none => exact Or.inl rfl
  | some i =>
    simp only
    cases hi : w.tasks[i]? with
    | none => exact Or.inl rfl
    | some task => exact Or.inr ⟨i, task, rfl, hi, rfl⟩

/-- A thread takes the next step of its task, with what is in its slot, or nothing happens. -/
theorem work_cases (p : Program σ κ) (w : Serving σ κ) (t : Nat) :
    w.work p t = w ∨ ∃ i task k, (w.threads t).task? = some i ∧ w.tasks[i]? = some task ∧
      task.progress = .going k ∧ w.work p t = w.takeStep p i task k (w.threads t).slot := by
  unfold work
  cases ht : (w.threads t).task? with
  | none => exact Or.inl rfl
  | some i =>
    simp only
    cases hi : w.tasks[i]? with
    | none => exact Or.inl rfl
    | some task =>
      simp only
      split
      · rename_i k hk
        exact Or.inr ⟨i, task, k, rfl, hi, hk, rfl⟩
      · exact Or.inl rfl

/-! ## Each step keeps the slots in order -/

theorem Sound.arrive (h : w.Sound) {fresh : String} (hfresh : IsRequestId fresh) (r : Request) :
    (w.arrive p fresh r).Sound := by
  refine h.append fun task htask => ?_
  rw [List.mem_singleton.mp htask]
  exact Task.sound_serving (hfresh.requestId r) _

theorem Sound.begin (h : w.Sound) (k : κ) : (w.step p (.begin k)).Sound := by
  refine h.append fun task htask => ?_
  rw [List.mem_singleton.mp htask]
  exact Task.sound_background k

theorem Sound.enter (h : w.Sound) (t i : Nat) : (w.enter t i).Sound := by
  rcases enter_cases w t i with heq | ⟨task, hi, hidle, hfree, heq⟩
  · rw [heq]
    exact h
  · obtain ⟨hslot, hsound⟩ := (h.tasks task (List.mem_of_getElem? hi)).swap_in hfree
    rw [heq, h.idle t hidle, hslot]
    refine h.put hi ?_ hsound (Task.header?_swap none) (Or.inr ⟨rfl, rfl⟩)
    -- a task that is free is one that no thread works at
    intro u _ hu
    obtain ⟨task', htask', hrunning, _⟩ := h.busy u i hu
    rw [hi] at htask'
    cases htask'
    rw [hfree] at hrunning
    cases hrunning

theorem Sound.leave (h : w.Sound) (t : Nat) : (w.leave t).Sound := by
  rcases leave_cases w t with heq | ⟨i, task, ht, hi, heq⟩
  · rw [heq]
    exact h
  · obtain ⟨hrunning, hslot⟩ := h.slot_of_busy ht hi
    obtain ⟨hempty, hsound⟩ := (h.tasks task (List.mem_of_getElem? hi)).swap_out hrunning
    rw [heq, hslot, hempty]
    refine h.put hi ?_ hsound (Task.header?_swap _) (Or.inl rfl)
    intro u hut hu
    exact hut (h.one u t i hu ht)

/-- A task that a thread works at changes, and the thread works on. -/
theorem Sound.replace (h : w.Sound) (ht : (w.threads t).task? = some i)
    (hi : w.tasks[i]? = some task) {task' : Task κ} (hsound : task'.Sound)
    (hheader : task'.header? = task.header?) (hrunning : task'.running = task.running) :
    Sound { w with tasks := w.tasks.set i task' } := by
  obtain ⟨hrun, hslot⟩ := h.slot_of_busy ht hi
  have hself : w.setThread t ⟨task.header?, some i⟩ = w.threads := by
    funext u
    unfold setThread
    split
    · rename_i hut
      rw [hut, ← hslot, ← ht]
    · rfl
  have hput := h.put hi (fun u hut hu => hut (h.one u t i hu ht)) hsound hheader
    (Or.inr ⟨rfl, hrunning.trans hrun⟩)
  rw [hself] at hput
  exact hput

theorem Sound.takeStep (h : w.Sound) (ht : (w.threads t).task? = some i)
    (hi : w.tasks[i]? = some task) (k : κ) :
    (w.takeStep p i task k (w.threads t).slot).Sound := by
  have hsound := h.tasks task (List.mem_of_getElem? hi)
  have hlt := lt_of_get hi
  rw [(h.slot_of_busy ht hi).2]
  unfold Serving.takeStep
  rcases (p.step task.header? k).run w.shared with ⟨c | stride, shared, notes⟩
  · have hbroke := h.replace ht hi (hsound.broke c) rfl rfl
    have hid := id?_put hi { task with progress := .broken c } rfl w.threads i
    rw [id?_of_get hi] at hid
    have htold := hbroke.tell (by simpa using hlt) hid (fun _ => hsound.isRequestId) []
      shared (w.notes ++ notes)
    rw [List.map_nil, List.append_nil] at htold
    exact htold
  · -- the task changes in its place, then others begin behind it, then what it did is told
    have hwent := h.replace ht hi (hsound.went stride.next) (Task.header?_went _)
      (Task.running_went _)
    have hmore : ∀ task ∈ stride.begun.map Task.background, task.Sound := by
      intro task htask
      obtain ⟨k', _, rfl⟩ := List.mem_map.mp htask
      exact Task.sound_background k'
    have hid := id?_put hi (task.went stride.next) (Task.header?_went _) w.threads i
    rw [id?_of_get hi] at hid
    have hlt' : i < (w.tasks.set i (task.went stride.next)).length := by simpa using hlt
    exact (hwent.append hmore).tell (Nat.lt_of_lt_of_le hlt' (by simp))
      ((id?_of_begins (ids_append _ _) hlt').trans hid) (fun _ => hsound.isRequestId) stride.calls
      shared (w.notes ++ notes)

theorem Sound.work (h : w.Sound) (t : Nat) : (w.work p t).Sound := by
  rcases work_cases p w t with heq | ⟨i, task, k, ht, hi, _, heq⟩
  · rw [heq]
    exact h
  · rw [heq]
    exact h.takeStep ht hi k

theorem Sound.step (h : w.Sound) {e : Event κ} (he : e.Random) : (w.step p e).Sound := by
  cases e with
  | arrive fresh r => exact h.arrive (isRequestId_of_random he) r
  | begin k => exact h.begin k
  | enter t i => exact h.enter t i
  | work t => exact h.work t
  | leave t => exact h.leave t

theorem Sound.run (h : w.Sound) {events : List (Event κ)} (hevents : ∀ e ∈ events, e.Random) :
    (w.run p events).Sound := by
  induction events generalizing w with
  | nil => exact h
  | cons e events ih =>
    exact ih (h.step (hevents e List.mem_cons_self)) fun e' he' =>
      hevents e' (List.mem_cons_of_mem _ he')

/-! ## Tasks keep their ids -/

theorem ids_takeStep (hi : w.tasks[i]? = some task) (k : κ) (current : Option String) :
    w.ids <+: (w.takeStep p i task k current).ids := by
  unfold takeStep
  rcases (p.step current k).run w.shared with ⟨c | stride, shared, notes⟩
  · have hbroke := ids_put hi { task with progress := .broken c } rfl w.threads
    exact begins_of_eq hbroke
  · have hwent := ids_put hi (task.went stride.next) (Task.header?_went _) w.threads
    exact hwent ▸ ids_append _ _

/-- Whatever happens, ids are only added. -/
theorem ids_step (w : Serving σ κ) (e : Event κ) : w.ids <+: (w.step p e).ids := by
  cases e with
  | arrive fresh r => exact ids_append w _
  | begin k => exact ids_append w _
  | enter t i =>
    change w.ids <+: (w.enter t i).ids
    rcases enter_cases w t i with heq | ⟨task, hi, _, _, heq⟩
    · exact begins_of_eq (by rw [heq])
    · have hput := ids_put hi { (task.swap (w.threads t).slot).2 with running := true }
        (Task.header?_swap _)
      exact begins_of_eq (by rw [heq, hput])
  | work t =>
    change w.ids <+: (w.work p t).ids
    rcases work_cases p w t with heq | ⟨i, task, k, _, hi, _, heq⟩
    · exact begins_of_eq (by rw [heq])
    · rw [heq]
      exact ids_takeStep hi k _
  | leave t =>
    change w.ids <+: (w.leave t).ids
    rcases leave_cases w t with heq | ⟨i, task, _, hi, heq⟩
    · exact begins_of_eq (by rw [heq])
    · have hput := ids_put hi { (task.swap (w.threads t).slot).2 with running := false }
        (Task.header?_swap _)
      exact begins_of_eq (by rw [heq, hput])

theorem ids_run (w : Serving σ κ) (events : List (Event κ)) : w.ids <+: (w.run p events).ids := by
  induction events generalizing w with
  | nil => exact List.prefix_rfl
  | cons e events ih => exact (ids_step w e).trans (ih (w.step p e))

end Serving

end ServiceMesh.Http
