-- The laws of request ids: from when a request arrives, whatever else is served at the same time,
-- all that is seen and sent for it carries its one id, and its response does.
import ServiceMesh.Proofs.Discovery.Stages
import ServiceMesh.Proofs.Http.Slots

namespace ServiceMesh.Http

variable {σ κ : Type}

/-! ## What a server reads of an id -/

/-- A server that reads an id notes it. -/
theorem mem_receivedNotes {m : Rpc.Metadata} {id : String} (h : m.requestId? = some id) :
    Note.log .debug "Received request id" [("request_id", .text id)] ∈ m.receivedNotes := by
  have hget : m.get? "x-request-id" = some id := (Option.filter_eq_some_iff.mp h).1
  unfold Rpc.Metadata.receivedNotes
  rw [hget]
  exact List.mem_append_right _ (List.mem_singleton.mpr rfl)

/-! ## Calls that are tried again -/

/-- A program tries a call again: at some of its steps it picks an endpoint, or calls the endpoint
that was picked, and then goes on where the call stands. -/
structure Program.Tries {ε ρ : Type} (p : Program σ κ) (retry : Retry)
    (pick : Act σ (Except Failure ε)) (call : ε → (remaining : Nat) → Act σ (Timed ρ))
    (span : Option Trace.Context) (place : Retry.Stage ε ρ → κ) : Prop where
  asks : ∀ current q, p.step current (place (.asking q)) = do
    return ⟨.inl (place (retry.picked q (← pick))), [], []⟩
  calls : ∀ current e q, p.step current (place (.calling e q)) = do
    let t ← call e (retry.timeout - q.spent)
    Act.note (Retry.outcomeNotes q t)
    return ⟨.inl (place (retry.answered q t)), [span], []⟩

section Trying

variable {ε ρ : Type} (retry : Retry) (pick : Act σ (Except Failure ε))
  (call : ε → (remaining : Nat) → Act σ (Timed ρ)) (span : Option Trace.Context)
  (reply : (spent : Nat) → Except Failure ρ → Response)

/-- Serves each request by a call that is tried again. -/
def Program.trying : Program σ (Retry.Stage ε ρ) where
  accept _ := .asking {}
  step _ := fun
    | .asking q => do return ⟨.inl (retry.picked q (← pick)), [], []⟩
    | .calling e q => do
      let t ← call e (retry.timeout - q.spent)
      Act.note (Retry.outcomeNotes q t)
      return ⟨.inl (retry.answered q t), [span], []⟩
    | .ended spent result => return ⟨.inr (reply spent result), [], []⟩

theorem tries_trying :
    (Program.trying retry pick call span reply).Tries retry pick call span fun stage => stage where
  asks _ _ := rfl
  calls _ _ _ := rfl

end Trying

namespace Serving

variable {p : Program σ κ} {w w' : Serving σ κ} {task : Task κ} {i t : Nat}

/-! ## What holds of one task -/

/-- A task is under an id, or under none: that and nothing else is what it sees as the current
id, and what a server reads of its remote calls. -/
structure Under (w : Serving σ κ) (i : Nat) (id? : Option String) : Prop where
  current : ∀ current, (i, current) ∈ w.seen → current = id?
  slot : ∀ t, (w.threads t).task? = some i → (w.threads t).slot = id?
  sent : ∀ m, (i, m) ∈ w.sent → m.requestId? = id?

theorem Sound.under (h : w.Sound) (i : Nat) : w.Under i (w.id? i) where
  current current hseen := (h.seen i current hseen).2
  slot t ht := by
    obtain ⟨task, hi, _, hslot⟩ := h.busy t i ht
    rw [hslot, id?_of_get hi]
  sent m hsent := (h.sent i m hsent).2

/-- What a task under an id comes to by a step. A response goes out as it is but for the id. -/
def onward (id : String) : κ ⊕ Response → Progress κ
  | .inl k => .going k
  | .inr response => .ended { response with
      headers := response.headers.filter (·.1 != "x-request-id") ++ [("x-request-id", id)] }

theorem progress_went {id : String} (h : task.header? = some id) (next : κ ⊕ Response) :
    (task.went next).progress = onward id next := by
  cases next with
  | inl k => rfl
  | inr response =>
    unfold Task.went Task.respond
    rw [h]
    rfl

/-- A request that is served as task `i`, under an id. -/
structure Served (p : Program σ κ) (w : Serving σ κ) (i : Nat) (id : String) : Prop where
  under : w.Under i (some id)
  /-- Each of its remote calls is noted with the id by the server that it goes to. -/
  noted : ∀ m, (i, m) ∈ w.sent →
    Note.log .debug "Received request id" [("request_id", .text id)] ∈ m.receivedNotes
  /-- A response that has gone out carries the id, once. -/
  answered : ∀ response, w.tasks[i]?.bind (·.response?) = some response →
    response.headers.filter (·.1 == "x-request-id") = [("x-request-id", id)]
  /-- In a next step, all remote calls go out with the id, and so does a response. -/
  step : ∀ t k stride shared notes, (w.threads t).task? = some i →
    w.tasks[i]?.map (·.progress) = some (.going k) →
    (p.step (some id) k).run w.shared = ⟨.ok stride, shared, notes⟩ →
    (w.work p t).sent =
      w.sent ++ stride.calls.map (fun span => (i, Trace.propagate span (some id) [])) ∧
    (w.work p t).tasks[i]?.map (·.progress) = some (onward id stride.next)
  /-- Each attempt of a call that is tried again is a remote call with the id. -/
  attempt : ∀ {ε ρ : Type} (retry : Retry) (pick : Act σ (Except Failure ε))
    (call : ε → Nat → Act σ (Timed ρ)) span place, p.Tries retry pick call span place →
    ∀ t e q result shared notes, (w.threads t).task? = some i →
    w.tasks[i]?.map (·.progress) = some (.going (place (.calling e q))) →
    (call e (retry.timeout - q.spent)).run w.shared = ⟨.ok result, shared, notes⟩ →
    (w.work p t).sent = w.sent ++ [(i, Trace.propagate span (some id) [])] ∧
    (Trace.propagate span (some id) []).requestId? = some id ∧
    (w.work p t).tasks[i]?.map (·.progress) = some (.going (place (retry.answered q result)))

/-- The next step of a task that serves a request. -/
theorem Sound.work_eq (h : w.Sound) (ht : (w.threads t).task? = some i)
    (hi : w.tasks[i]? = some task) {k : κ} (hk : task.progress = .going k) :
    w.work p t = w.takeStep p i task k (w.id? i) := by
  unfold Serving.work
  rw [ht]
  simp only [hi, hk]
  rw [(h.slot_of_busy ht hi).2, id?_of_get hi]

theorem Sound.step_served (h : w.Sound) {id : String} (hid : w.id? i = some id) {k : κ}
    {stride : Stride κ} {shared : σ} {notes : List Note} (ht : (w.threads t).task? = some i)
    (hk : w.tasks[i]?.map (·.progress) = some (.going k))
    (hrun : (p.step (some id) k).run w.shared = ⟨.ok stride, shared, notes⟩) :
    (w.work p t).sent =
      w.sent ++ stride.calls.map (fun span => (i, Trace.propagate span (some id) [])) ∧
    (w.work p t).tasks[i]?.map (·.progress) = some (onward id stride.next) := by
  obtain ⟨task, hi, hprogress⟩ := Option.map_eq_some_iff.mp hk
  have hheader : task.header? = some id := (id?_of_get hi).symm.trans hid
  rw [h.work_eq ht hi hprogress, hid]
  unfold Serving.takeStep
  rw [hrun]
  refine ⟨rfl, ?_⟩
  have hlt : i < (w.tasks.set i (task.went stride.next)).length := by
    simpa using lt_of_get hi
  simp only [List.getElem?_append_left hlt]
  rw [List.getElem?_set_self (lt_of_get hi)]
  exact congrArg some (progress_went hheader stride.next)

theorem Sound.served (h : w.Sound) {id : String} (hid : w.id? i = some id) :
    Served p w i id := by
  have hunder : w.Under i (some id) := hid ▸ h.under i
  refine ⟨hunder, fun m hsent => mem_receivedNotes (hunder.sent m hsent), ?_, ?_, ?_⟩
  · intro response hresponse
    obtain ⟨task, hi, hended⟩ := Option.bind_eq_some_iff.mp hresponse
    have hheader : task.header? = some id := (id?_of_get hi).symm.trans hid
    exact (h.tasks task (List.mem_of_getElem? hi)).answered response hended id hheader
  · intro t k stride shared notes
    exact h.step_served hid
  · intro ε ρ retry pick call span place htries t e q result shared notes ht hk hcall
    obtain ⟨task, hi, _⟩ := Option.map_eq_some_iff.mp hk
    have hheader : task.header? = some id := (id?_of_get hi).symm.trans hid
    have hrequest := (h.tasks task (List.mem_of_getElem? hi)).isRequestId hheader
    have hrun : (p.step (some id) (place (.calling e q))).run w.shared =
        ⟨.ok ⟨.inl (place (retry.answered q result)), [span], []⟩, shared,
          notes ++ (Retry.outcomeNotes q result ++ [])⟩ := by
      rw [htries.calls, Act.run_bind_ok hcall, Act.run_bind_ok (Act.run_note _ _)]
      rfl
    obtain ⟨hsent, hnext⟩ := h.step_served hid ht hk hrun
    exact ⟨hsent, hrequest.requestId?_propagate span [], hnext⟩

/-! ## Where tasks come from -/

theorem run_split (p : Program σ κ) (w : Serving σ κ) (before after : List (Event κ))
    (e : Event κ) :
    w.run p (before ++ e :: after) = ((w.run p before).step p e).run p after :=
  List.foldl_append

/-- A request that arrives is handed on with its id, and is the last of the tasks. -/
theorem get_arrive {fresh : String} {r : Request} (h : IsRequestId (requestId fresh r))
    (w : Serving σ κ) :
    (w.step p (.arrive fresh r)).tasks[w.tasks.length]? =
      some (.serving (requestId fresh r)
        (p.accept (r.setHeader "x-request-id" (requestId fresh r)))) := by
  change (w.arrive p fresh r).tasks[w.tasks.length]? = _
  unfold arrive
  simp only [h.headerValue?, List.getElem?_concat_length]

/-- Behind the tasks that there were, one without a request has no id. -/
theorem id?_background {tasks : List (Task κ)} (hlength : tasks.length = w.tasks.length)
    (begun : List κ) (hw : w'.tasks = tasks ++ begun.map .background) (hi : w.tasks.length ≤ i) :
    w'.id? i = none := by
  unfold id?
  rw [hw, List.getElem?_append_right (hlength ▸ hi), List.getElem?_map]
  cases begun[i - tasks.length]? <;> rfl

/-- Only a request that arrives brings an id. -/
theorem id?_step (w : Serving σ κ) {e : Event κ} (he : ∀ fresh r, e ≠ .arrive fresh r)
    (hi : w.tasks.length ≤ i) : (w.step p e).id? i = none := by
  cases e with
  | arrive fresh r => exact absurd rfl (he fresh r)
  | begin k => exact id?_background rfl [k] rfl hi
  | enter t j =>
    change (w.enter t j).id? i = none
    rcases enter_cases w t j with heq | ⟨task, _, _, _, heq⟩
    · rw [heq]
      exact id?_background rfl [] (List.append_nil _).symm hi
    · rw [heq]
      exact id?_background (by simp) [] (List.append_nil _).symm hi
  | work t =>
    change (w.work p t).id? i = none
    rcases work_cases p w t with heq | ⟨j, task, k, _, _, _, heq⟩
    · rw [heq]
      exact id?_background rfl [] (List.append_nil _).symm hi
    · rw [heq]
      unfold takeStep
      rcases (p.step (w.threads t).slot k).run w.shared with ⟨c | stride, shared, notes⟩
      · exact id?_background (by simp) [] (List.append_nil _).symm hi
      · exact id?_background (by simp) stride.begun rfl hi
  | leave t =>
    change (w.leave t).id? i = none
    rcases leave_cases w t with heq | ⟨j, task, _, _, heq⟩
    · rw [heq]
      exact id?_background rfl [] (List.append_nil _).symm hi
    · rw [heq]
      exact id?_background (by simp) [] (List.append_nil _).symm hi

end Serving

/-! ## The laws -/

/-- The id of a request: the first that came with it, if it is text and not empty, and a fresh one
otherwise. -/
structure IdOf (fresh : String) (r : Request) (id : String) : Prop where
  given : ∀ value, r.header? "x-request-id" = some value → value ≠ "" →
    isHeaderText value = true → id = value
  new : (∀ value, r.header? "x-request-id" = some value →
    value = "" ∨ isHeaderText value = false) → id = fresh

theorem idOf_requestId (fresh : String) (r : Request) : IdOf fresh r (requestId fresh r) where
  given value hvalue hfilled htext := by
    rw [requestId_eq, hvalue]
    exact if_pos ⟨hfilled, htext⟩
  new hnone := by
    rw [requestId_eq]
    cases hvalue : r.header? "x-request-id" with
    | none => rfl
    | some value =>
      refine if_neg fun ⟨hfilled, htext⟩ => ?_
      rcases hnone value hvalue with hempty | hother
      · exact hfilled hempty
      · rw [htext] at hother
        cases hother

/-- What comes of an event of a run. It happens at `start`, and at `w` others have followed. -/
structure OneIdEach (p : Program σ κ) (start : Serving σ κ) (e : Event κ) (w : Serving σ κ) :
    Prop where
  /-- A request that arrives is handed on with its one id, and served under it. -/
  request : ∀ fresh r, e = .arrive fresh r → ∃ id, IdOf fresh r id ∧
    (start.step p e).tasks[start.tasks.length]?.map (·.progress) =
      some (.going (p.accept (r.setHeader "x-request-id" id))) ∧
    (r.setHeader "x-request-id" id).values "x-request-id" = [id] ∧
    w.Served p start.tasks.length id
  /-- Any other tasks that begin are under no id. -/
  others : (∀ fresh r, e ≠ .arrive fresh r) → ∀ i, start.tasks.length ≤ i →
    i < (start.step p e).tasks.length → w.Under i none
  /-- A thread that works at no task has no id. -/
  idle : ∀ t, (w.threads t).task? = none → (w.threads t).slot = none

/-- Whatever is served at the same time, each request is served under one id. It came with the
request or is a fresh one, and it alone is seen and sent for the request, and answered. -/
theorem each_request_is_served_under_its_own_id (p : Program σ κ) (shared : σ)
    (before after : List (Event κ)) (e : Event κ)
    (hrandom : ∀ e' ∈ before ++ e :: after, e'.Random) :
    OneIdEach p (.run p { shared } before) e (.run p { shared } (before ++ e :: after)) := by
  have hafter : (Serving.run p { shared } (before ++ e :: after)).Sound :=
    (Serving.sound_start shared).run hrandom
  generalize hstart : Serving.run p { shared } before = start
  have hw : Serving.run p { shared } (before ++ e :: after) = (start.step p e).run p after := by
    rw [Serving.run_split, hstart]
  rw [hw] at hafter ⊢
  have hkeeps : ∀ i, i < (start.step p e).tasks.length →
      ((start.step p e).run p after).id? i = (start.step p e).id? i := fun i hi =>
    Serving.id?_of_begins (Serving.ids_run _ after) hi
  refine ⟨?_, ?_, hafter.idle⟩
  · rintro fresh r rfl
    have hfresh : IsRequestId fresh :=
      isRequestId_of_random (hrandom _ (List.mem_append_right _ List.mem_cons_self))
    have hid := hfresh.requestId r
    have hget := Serving.get_arrive (p := p) hid start
    refine ⟨requestId fresh r, idOf_requestId fresh r, ?_, values_setHeader r _ _, ?_⟩
    · rw [hget]
      rfl
    · refine hafter.served ?_
      rw [hkeeps _ (Serving.lt_of_get hget), Serving.id?_of_get hget]
      exact hid.headerValue?
  · intro hother i hi hlt
    have hnone : ((start.step p e).run p after).id? i = none := by
      rw [hkeeps i hlt]
      exact Serving.id?_step start hother hi
    exact hnone ▸ hafter.under i

/-- Serves each request by a call that may be tried twice. The first call of all fails. -/
def twice : Program Nat (Retry.Stage Unit String) :=
  .trying ⟨2, Span.ofMillis 1000⟩ (return .ok ()) (fun _ _ => do
      let calls ← Act.get
      Act.modify (· + 1)
      return .ended 1 (if calls = 0 then .error (.badGateway "down") else .ok "up"))
    none fun _ result => match result with
      | .ok text => .plain 200 text
      | .error _ => .plain 502 ""

/-- A request with an id. -/
def named : Event (Retry.Stage Unit String) :=
  .arrive "52817365-1904-4726-8351-946027153809"
    ⟨"GET", "/", none, [("x-request-id", "req-789"), ("x-request-id", "other")], []⟩

/-- A request with an id that is not text. -/
def nameless : Event (Retry.Stage Unit String) :=
  .arrive "90471628-5533-4018-9276-081354729066" ⟨"GET", "/", none, [("x-request-id", "é")], []⟩

/-- The threads take turns. The first request is tried twice, the second time by a thread that
has not worked at it before. -/
def turns : List (Event (Retry.Stage Unit String)) :=
  [.enter 0 0, .enter 1 1, .work 0, .work 1, .work 0, .leave 0, .work 1, .work 1, .leave 1,
    .enter 1 0, .work 1, .work 1, .work 1, .leave 1]

theorem requests_that_cross_keep_their_ids :
    (∀ e ∈ named :: nameless :: turns, e.Random) ∧
    (∃ pick call, twice.Tries ⟨2, Span.ofMillis 1000⟩ pick call none fun stage => stage) ∧
    OneIdEach twice { shared := 0 } named
      (.run twice { shared := 0 } (named :: nameless :: turns)) ∧
    OneIdEach twice (.run twice { shared := 0 } [named]) nameless
      (.run twice { shared := 0 } (named :: nameless :: turns)) ∧
    (Serving.run twice { shared := 0 } (named :: nameless :: turns)).sent =
      [(0, [("x-request-id", "req-789")]),
        (1, [("x-request-id", "90471628-5533-4018-9276-081354729066")]),
        (0, [("x-request-id", "req-789")])] := by
  have hnamed : Text.isRandomId "52817365-1904-4726-8351-946027153809" = true := by decide +kernel
  have hnameless : Text.isRandomId "90471628-5533-4018-9276-081354729066" = true := by
    decide +kernel
  have hrandom : ∀ e ∈ named :: nameless :: turns, e.Random := by
    simp [named, nameless, turns, Event.Random, hnamed, hnameless]
  refine ⟨hrandom, ⟨_, _, tries_trying ⟨2, Span.ofMillis 1000⟩ _ _ none _⟩, ?_, ?_, by decide +kernel⟩
  · exact each_request_is_served_under_its_own_id twice 0 [] (nameless :: turns) named hrandom
  · exact each_request_is_served_under_its_own_id twice 0 [named] turns nameless hrandom

end ServiceMesh.Http
