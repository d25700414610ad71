-- The limit on each client's requests: while no request of a client is given back,
-- a client is refused by its own earlier requests and by nothing else, whoever calls
-- in between.
import Mathlib.Data.List.Induction
import Mathlib.Data.List.TakeWhile
import ServiceMesh.Http.IpLimit
import ServiceMesh.Proofs.Endpoint.Quotas
import ServiceMesh.Proofs.Endpoint.Spending

namespace ServiceMesh

namespace Http

/-! ## Which client a request is from -/

/-- The first item of the first `x-forwarded-for` header is this address. -/
def Request.FirstHop (r : Request) (ip : IpAddress) : Prop :=
  ∃ value item rest, r.header? "x-forwarded-for" = some value ∧ isHeaderText value = true ∧
    value.toList = item ++ rest ∧ ',' ∉ item ∧ (rest = [] ∨ rest.head? = some ',') ∧
    IpAddress.parse? (Text.trim (String.ofList item)) = some ip

/-- A request, where it comes from and when, in nanoseconds. -/
structure Arrival where
  nanos : Nat
  peer : Option IpAddress
  request : Request

namespace Arrival

def client? (a : Arrival) : Option IpAddress := IpLimiter.client? a.peer a.request

/-- The client is the first hop, else the peer. -/
def From (a : Arrival) (ip : IpAddress) : Prop :=
  a.request.FirstHop ip ∨ (∀ hop, ¬ a.request.FirstHop hop) ∧ a.peer = some ip

end Arrival

theorem takeWhile_item {cs item rest : List Char} (h : cs = item ++ rest) (hc : ',' ∉ item)
    (hr : rest = [] ∨ rest.head? = some ',') : cs.takeWhile (· ≠ ',') = item := by
  have inside : ∀ c ∈ item, decide (c ≠ ',') = true := by
    intro c hm
    rw [decide_eq_true_eq]
    rintro rfl
    exact hc hm
  rw [h, List.takeWhile_append_of_pos inside]
  rcases hr with rfl | hr
  · simp
  · cases rest with
    | nil => cases hr
    | cons c rest =>
      obtain rfl : c = ',' := Option.some.inj hr
      simp

theorem exists_item (cs : List Char) :
    ∃ rest, cs = cs.takeWhile (· ≠ ',') ++ rest ∧ (rest = [] ∨ rest.head? = some ',') := by
  refine ⟨cs.dropWhile (· ≠ ','), List.takeWhile_append_dropWhile.symm, ?_⟩
  cases h : cs.dropWhile (· ≠ ',') with
  | nil => exact .inl rfl
  | cons c rest =>
    right
    have hc := List.head?_dropWhile_not (· ≠ ',') cs
    rw [h] at hc
    simpa using hc

/-- The address that the header names, as it is read. -/
theorem firstHop_iff (r : Request) (ip : IpAddress) :
    r.FirstHop ip ↔ ((r.textHeader? "x-forwarded-for").bind fun v =>
      IpAddress.parse? (Text.trim (String.ofList (v.toList.takeWhile (· ≠ ','))))) = some ip := by
  unfold Request.textHeader?
  rw [Option.bind_eq_some_iff]
  constructor
  · rintro ⟨value, item, rest, hv, ht, hsplit, hc, hr, hip⟩
    refine ⟨value, ?_, ?_⟩
    · rw [hv]
      simp [ht]
    · rw [takeWhile_item hsplit hc hr]
      exact hip
  · rintro ⟨value, hv, hip⟩
    obtain ⟨hv, ht⟩ := Option.filter_eq_some_iff.mp hv
    obtain ⟨rest, hsplit, hr⟩ := exists_item value.toList
    refine ⟨value, _, rest, hv, ht, hsplit, ?_, hr, hip⟩
    intro hm
    simpa using List.mem_takeWhile_imp hm

theorem client?_iff (a : Arrival) (ip : IpAddress) : a.client? = some ip ↔ a.From ip := by
  unfold Arrival.client? IpLimiter.client? Arrival.From
  simp only [firstHop_iff]
  generalize (a.request.textHeader? "x-forwarded-for").bind _ = forwarded
  cases forwarded with
  | none => simp
  | some hop => simp

namespace IpLimiter

/-! ## Serving requests one after another -/

variable {τ : Type}

/-- A request is served at its instant, by a service with a state of its own. -/
def serve (work : Request → Act τ Response) (s : IpLimiter × τ) (a : Arrival) :
    Outcome (IpLimiter × τ) Response :=
  (limited Prod.fst (fun l s => (l, s.2)) a.peer
    (fun r => (work r).on Prod.snd fun t s => (s.1, t)) a.request).run
    ({ s.1 with now := a.nanos }, s.2)

/-- What requests leave behind. -/
def after (work : Request → Act τ Response) (s : IpLimiter × τ) (past : List Arrival) :
    IpLimiter × τ :=
  past.foldl (fun s a => (serve work s a).state) s

theorem after_snoc (work : Request → Act τ Response) (s : IpLimiter × τ) (past : List Arrival)
    (a : Arrival) : after work s (past ++ [a]) = (serve work (after work s past) a).state :=
  List.foldl_append ..

/-- The failure that refuses a request, with the nanoseconds until the next may pass. -/
def refusal (wait : Nat) : Failure :=
  .tooManyRequests "Too many requests from this IP. Please try again later."
    (some (Limiter.waitSeconds wait))

/-- The request was answered by the service, which alone has moved on. -/
structure Passed (work : Request → Act τ Response) (t : τ) (a : Arrival)
    (o : Outcome (IpLimiter × τ) Response) : Prop where
  result : o.result = ((work a.request).run t).result
  state : o.state.2 = ((work a.request).run t).state

/-- The request was refused, and the service never saw it. -/
structure Refused (t : τ) (wait : Nat) (o : Outcome (IpLimiter × τ) Response) : Prop where
  result : o.result = .ok (refusal wait).response
  state : o.state.2 = t

section
variable (work : Request → Act τ Response) (s : IpLimiter × τ) {a : Arrival}

theorem serve_keyless (h : a.client? = none) :
    Passed work s.2 a (serve work s a) ∧
      (serve work s a).state.1 = { s.1 with now := a.nanos } := by
  have served : serve work s a =
      (do Act.note [.log .warn "Could not determine IP for rate limiting"]
          (work a.request).on Prod.snd fun t s => (s.1, t)).run
        ({ s.1 with now := a.nanos }, s.2) := by
    unfold serve limited
    rw [show client? a.peer a.request = none from h]
  rw [served]
  exact ⟨⟨rfl, rfl⟩, rfl⟩

theorem serve_passed {ip : IpAddress} {l : Limiter} (h : a.client? = some ip)
    (hl : (s.1.limiter ip).check a.nanos = .ok l) :
    Passed work s.2 a (serve work s a) ∧
      (serve work s a).state.1 = ({ s.1 with now := a.nanos + 1 } : IpLimiter).put ip l := by
  have checked : ((check ip).on Prod.fst fun l (s : IpLimiter × τ) => (l, s.2)).run
      ({ s.1 with now := a.nanos }, s.2) =
      ⟨.ok none, (({ s.1 with now := a.nanos + 1 } : IpLimiter).put ip l, s.2), []⟩ := by
    have asked : (({ s.1 with now := a.nanos + 1 } : IpLimiter).limiter ip).check a.nanos =
        .ok l := hl
    refine Act.run_on ?_
    unfold Act.run check
    simp only [asked]
  unfold serve limited
  rw [show client? a.peer a.request = some ip from h, Act.run_bind_ok checked]
  exact ⟨⟨rfl, rfl⟩, rfl⟩

theorem serve_refused {ip : IpAddress} {wait : Nat} (h : a.client? = some ip)
    (hl : (s.1.limiter ip).check a.nanos = .error wait) :
    Refused s.2 wait (serve work s a) ∧
      (serve work s a).state.1 = { s.1 with now := a.nanos + 1 } := by
  have checked : ((check ip).on Prod.fst fun l (s : IpLimiter × τ) => (l, s.2)).run
      ({ s.1 with now := a.nanos }, s.2) =
      ⟨.ok (some (refusal wait)), ({ s.1 with now := a.nanos + 1 }, s.2),
        [.log .warn "Rate limit exceeded" [("ip", .text ip.text)]]⟩ := by
    have asked : (({ s.1 with now := a.nanos + 1 } : IpLimiter).limiter ip).check a.nanos =
        .error wait := hl
    refine Act.run_on ?_
    unfold Act.run check
    simp only [asked]
    rfl
  unfold serve limited
  rw [show client? a.peer a.request = some ip from h, Act.run_bind_ok checked]
  exact ⟨⟨rfl, rfl⟩, rfl⟩

end

/-! ## One limiter for each client -/

theorem limiter_put_self (l : IpLimiter) (ip : IpAddress) (lim : Limiter) :
    (l.put ip lim).limiter ip = lim := by
  unfold limiter put
  rw [List.find?_cons_of_pos (by simp)]
  rfl

theorem limiter_put_ne (l : IpLimiter) {ip ip' : IpAddress} (lim : Limiter) (h : ip' ≠ ip) :
    (l.put ip lim).limiter ip' = l.limiter ip' := by
  unfold limiter put
  rw [List.find?_cons_of_neg (by simpa using Ne.symm h), List.find?_filter]
  congr 3
  funext entry
  by_cases he : entry.1 = ip'
  · simp [he, h]
  · simp [he]

/-- The requests of a client. -/
def own (ip : IpAddress) (past : List Arrival) : List Arrival :=
  past.filter (·.client? = some ip)

theorem own_snoc_self {a : Arrival} {ip : IpAddress} (h : a.client? = some ip)
    (past : List Arrival) : own ip (past ++ [a]) = own ip past ++ [a] := by
  simp [own, h]

theorem own_snoc_other {a : Arrival} {ip : IpAddress} (h : a.client? ≠ some ip)
    (past : List Arrival) : own ip (past ++ [a]) = own ip past := by
  simp [own, h]

/-- Requests come in order, and all within less than one period. -/
structure Brief (period : Nat) (arrivals : List Arrival) : Prop where
  in_order : arrivals.Pairwise fun a b => a.nanos ≤ b.nanos
  soon : ∀ a ∈ arrivals, ∀ b ∈ arrivals, b.nanos < a.nanos + period

theorem Brief.sublist {period : Nat} {few many : List Arrival} (h : Brief period many)
    (hs : few.Sublist many) : Brief period few :=
  ⟨h.in_order.sublist hs, fun a ha b hb => h.soon a (hs.mem ha) b (hs.mem hb)⟩

/-- The limiter that a client's requests leave: nothing is given back before the first of them
is a period old. -/
def spent (quota : Quota) (requests : List Arrival) : Limiter :=
  ⟨quota, requests.head?.map fun first =>
    first.nanos + quota.period * (1 + min quota.burst requests.length)⟩

section
variable {quota : Quota} {requests : List Arrival} {a : Arrival}

theorem spent_eq (quota : Quota) (requests : List Arrival) :
    spent quota requests = Limiter.spentBy quota (requests.map (·.nanos)) := by
  cases requests with
  | nil => rfl
  | cons first rest =>
    rw [List.map_cons, Limiter.spentBy_cons, List.length_map]
    rfl

theorem Brief.instants {period : Nat} {arrivals : List Arrival} (h : Brief period arrivals) :
    Limiter.Brief period (arrivals.map (·.nanos)) where
  in_order := List.pairwise_map.mpr h.in_order
  soon := by
    intro x hx y hy
    obtain ⟨a, ha, rfl⟩ := List.mem_map.mp hx
    obtain ⟨b, hb, rfl⟩ := List.mem_map.mp hy
    exact h.soon a ha b hb

theorem check_spent_passes (brief : Brief quota.period (requests ++ [a]))
    (h : requests.length < quota.burst) :
    (spent quota requests).check a.nanos = .ok (spent quota (requests ++ [a])) := by
  have instants := brief.instants
  rw [List.map_append] at instants
  rw [spent_eq, spent_eq, List.map_append]
  refine Limiter.check_spentBy_passes instants ?_
  rw [List.length_map]
  exact h

theorem check_spent_refuses {first : Arrival} (brief : Brief quota.period (requests ++ [a]))
    (hf : requests.head? = some first) (h : quota.burst ≤ requests.length) :
    (spent quota requests).check a.nanos = .error (first.nanos + quota.period - a.nanos) ∧
      spent quota (requests ++ [a]) = spent quota requests := by
  have instants := brief.instants
  rw [List.map_append] at instants
  rw [spent_eq, spent_eq, List.map_append]
  refine Limiter.check_spentBy_refuses instants ?_ ?_
  · rw [List.head?_map, hf]
    rfl
  · rw [List.length_map]
    exact h

end

/-! ## All clients together -/

/-- Each client has a limiter that its own requests alone have spent. -/
structure Apart (quota : Quota) (past : List Arrival) (l : IpLimiter) : Prop where
  rate : l.quota = quota
  spent_by : ∀ ip, l.limiter ip = spent quota (own ip past)

theorem apart_nil (quota : Quota) : Apart quota [] { quota } := ⟨rfl, fun _ => rfl⟩

/-- A request that no limiter takes note of leaves all limiters as they are. -/
theorem Apart.still {quota : Quota} {past : List Arrival} {l : IpLimiter} (h : Apart quota past l)
    {a : Arrival} (same : ∀ ip, a.client? = some ip →
      spent quota (own ip past ++ [a]) = spent quota (own ip past)) (now : Nat) :
    Apart quota (past ++ [a]) { l with now } := by
  refine ⟨h.rate, ?_⟩
  intro ip
  by_cases hc : a.client? = some ip
  · rw [own_snoc_self hc, same ip hc]
    exact h.spent_by ip
  · rw [own_snoc_other hc]
    exact h.spent_by ip

theorem Apart.put {quota : Quota} {past : List Arrival} {l : IpLimiter} (h : Apart quota past l)
    {a : Arrival} {ip : IpAddress} (hc : a.client? = some ip) (now : Nat) :
    Apart quota (past ++ [a])
      (({ l with now } : IpLimiter).put ip (spent quota (own ip past ++ [a]))) := by
  refine ⟨h.rate, ?_⟩
  intro ip'
  by_cases hip : ip' = ip
  · rw [hip, limiter_put_self, own_snoc_self hc]
  · have other : a.client? ≠ some ip' := by
      rw [hc]
      exact fun e => hip (Option.some.inj e).symm
    rw [limiter_put_ne _ _ hip, own_snoc_other other]
    exact h.spent_by ip'

theorem Brief.own_snoc {period : Nat} {past : List Arrival} {a : Arrival} {ip : IpAddress}
    (h : Brief period (past ++ [a])) (hc : a.client? = some ip) :
    Brief period (own ip past ++ [a]) := by
  rw [← own_snoc_self hc]
  exact h.sublist List.filter_sublist

section
variable {quota : Quota} {past : List Arrival} {a : Arrival} {s : IpLimiter × τ}
variable (work : Request → Act τ Response)

/-- A request whose client has calls left is passed on. -/
theorem passed_step (apart : Apart quota past s.1) (brief : Brief quota.period (past ++ [a]))
    (left : ∀ ip, a.client? = some ip → (own ip past).length < quota.burst) :
    Passed work s.2 a (serve work s a) ∧ Apart quota (past ++ [a]) (serve work s a).state.1 := by
  cases hc : a.client? with
  | none =>
    obtain ⟨passed, state⟩ := serve_keyless work s hc
    refine ⟨passed, ?_⟩
    rw [state]
    refine apart.still ?_ a.nanos
    intro ip hip
    rw [hc] at hip
    cases hip
  | some ip =>
    have checked : (s.1.limiter ip).check a.nanos = .ok (spent quota (own ip past ++ [a])) := by
      rw [apart.spent_by ip]
      exact check_spent_passes (brief.own_snoc hc) (left ip hc)
    obtain ⟨passed, state⟩ := serve_passed work s hc checked
    refine ⟨passed, ?_⟩
    rw [state]
    exact apart.put hc (a.nanos + 1)

/-- A request whose client has no call left is refused. -/
theorem refused_step (apart : Apart quota past s.1) (brief : Brief quota.period (past ++ [a]))
    {ip : IpAddress} (hc : a.client? = some ip) {first : Arrival}
    (hf : (own ip past).head? = some first) (h : quota.burst ≤ (own ip past).length) :
    Refused s.2 (first.nanos + quota.period - a.nanos) (serve work s a) ∧
      Apart quota (past ++ [a]) (serve work s a).state.1 := by
  obtain ⟨checked, same⟩ := check_spent_refuses (brief.own_snoc hc) hf h
  rw [← apart.spent_by ip] at checked
  obtain ⟨refused, state⟩ := serve_refused work s hc checked
  refine ⟨refused, ?_⟩
  rw [state]
  refine apart.still ?_ (a.nanos + 1)
  intro ip' hc'
  obtain rfl : ip = ip' := Option.some.inj (hc.symm.trans hc')
  exact same

theorem exists_first {ip : IpAddress} (hb : 1 ≤ quota.burst)
    (h : quota.burst ≤ (own ip past).length) : ∃ first, (own ip past).head? = some first := by
  cases ho : own ip past with
  | nil =>
    rw [ho] at h
    exact absurd (Nat.le_trans hb h) (by simp)
  | cons first rest => exact ⟨first, rfl⟩

theorem apart_after (hb : 1 ≤ quota.burst) (inner : τ) (past : List Arrival)
    (brief : Brief quota.period past) :
    Apart quota past (after work ({ quota }, inner) past).1 := by
  induction past using List.reverseRecOn with
  | nil => exact apart_nil quota
  | append_singleton past a ih =>
    have apart := ih (brief.sublist (List.sublist_append_left past [a]))
    rw [after_snoc]
    by_cases left : ∀ ip, a.client? = some ip → (own ip past).length < quota.burst
    · exact (passed_step work apart brief left).2
    · push Not at left
      obtain ⟨ip, hc, h⟩ := left
      obtain ⟨first, hf⟩ := exists_first hb h
      exact (refused_step work apart brief hc hf h).2

end

/-! ## The laws -/

/-- The earlier requests of the same client. -/
def earlier (past : List Arrival) (a : Arrival) : List Arrival :=
  past.filter (·.client? = a.client?)

theorem earlier_eq {a : Arrival} {ip : IpAddress} (h : a.client? = some ip)
    (past : List Arrival) : earlier past a = own ip past := by
  unfold earlier own
  rw [h]

/-- The client is known, and has used up its calls. -/
def Exhausted (n : Nat) (past : List Arrival) (a : Arrival) : Prop :=
  (∃ ip, a.From ip) ∧ n ≤ (earlier past a).length

/-- The nanoseconds until the first request of the client is a period old. -/
def untilNext (period : Nat) (past : List Arrival) (a : Arrival) : Nat :=
  ((earlier past a).head?.map (·.nanos)).getD 0 + period - a.nanos

/-- What requests get, from a limiter that has seen none before. -/
structure LimitsEach (n : Nat) (quota : Quota) (work : Request → Act τ Response) (inner : τ)
    (arrivals : List Arrival) : Prop where
  /-- A client with as many requests before is refused, and told when it may come again. -/
  refused : ∀ past a, past ++ [a] <+: arrivals → Exhausted n past a →
    Refused (after work ({ quota }, inner) past).2 (untilNext quota.period past a)
      (serve work (after work ({ quota }, inner) past) a)
  /-- Any other request is passed on, also one whose client is not known. -/
  passed : ∀ past a, past ++ [a] <+: arrivals → ¬ Exhausted n past a →
    Passed work (after work ({ quota }, inner) past).2 a
      (serve work (after work ({ quota }, inner) past) a)
  /-- So if the service behind answers no 429 of its own, a 429 says that calls are used up. -/
  status : (∀ r t response, ((work r).run t).result = .ok response → response.status ≠ 429) →
    ∀ past a, past ++ [a] <+: arrivals →
      ((∃ response, (serve work (after work ({ quota }, inner) past) a).result = .ok response ∧
        response.status = 429) ↔ Exhausted n past a)

theorem limitsEach {n : Nat} {quota : Quota} (hn : 1 ≤ n) (hb : quota.burst = n)
    (work : Request → Act τ Response) (inner : τ) {arrivals : List Arrival}
    (brief : Brief quota.period arrivals) : LimitsEach n quota work inner arrivals := by
  have apart : ∀ past a, past ++ [a] <+: arrivals →
      Apart quota past (after work ({ quota }, inner) past).1 ∧
        Brief quota.period (past ++ [a]) := by
    intro past a hp
    have here := brief.sublist hp.sublist
    exact ⟨apart_after work (by omega) inner past
      (here.sublist (List.sublist_append_left past [a])), here⟩
  have refused : ∀ past a, past ++ [a] <+: arrivals → Exhausted n past a →
      Refused (after work ({ quota }, inner) past).2 (untilNext quota.period past a)
        (serve work (after work ({ quota }, inner) past) a) := by
    intro past a hp ⟨⟨ip, known⟩, h⟩
    obtain ⟨apart, here⟩ := apart past a hp
    have hc := (client?_iff a ip).mpr known
    rw [earlier_eq hc, ← hb] at h
    obtain ⟨first, hf⟩ := exists_first (by omega) h
    have wait : untilNext quota.period past a = first.nanos + quota.period - a.nanos := by
      unfold untilNext
      rw [earlier_eq hc, hf]
      rfl
    rw [wait]
    exact (refused_step work apart here hc hf h).1
  have passed : ∀ past a, past ++ [a] <+: arrivals → ¬ Exhausted n past a →
      Passed work (after work ({ quota }, inner) past).2 a
        (serve work (after work ({ quota }, inner) past) a) := by
    intro past a hp h
    obtain ⟨apart, here⟩ := apart past a hp
    refine (passed_step work apart here ?_).1
    intro ip hc
    rw [hb, ← earlier_eq hc, ← Nat.not_le]
    exact fun le => h ⟨⟨ip, (client?_iff a ip).mp hc⟩, le⟩
  refine ⟨refused, passed, ?_⟩
  intro never past a hp
  constructor
  · rintro ⟨response, hr, h429⟩
    by_contra h
    rw [(passed past a hp h).result] at hr
    exact never _ _ response hr h429
  · intro h
    exact ⟨_, (refused past a hp h).result, rfl⟩

/-- Requests that come within less than a period: a client is refused exactly if it is known and
has sent as many requests as the limit before. So who else calls in between changes nothing, in
whichever run and before whichever service: with as many requests before, a client is refused in
both or in neither. -/
theorem a_client_is_limited_by_its_own_requests_alone {n seconds : Nat} {quota : Quota}
    (hn : 1 ≤ n) (hq : Quota.perWindow n seconds = .ok quota) (work : Request → Act τ Response)
    (inner : τ) {arrivals : List Arrival} (brief : Brief quota.period arrivals) :
    (∀ (a : Arrival) (ip : IpAddress), a.client? = some ip ↔ a.From ip) ∧
    LimitsEach n quota work inner arrivals ∧
    ∀ {τ' : Type} (work' : Request → Act τ' Response) (inner' : τ') {arrivals' : List Arrival},
      Brief quota.period arrivals' → ∀ past a past' a', past ++ [a] <+: arrivals →
        past' ++ [a'] <+: arrivals' → a.client? = a'.client? →
        (earlier past a).length = (earlier past' a').length →
        let s := after work ({ quota }, inner) past
        let s' := after work' ({ quota }, inner') past'
        (Refused s.2 (untilNext quota.period past a) (serve work s a) ∧
          Refused s'.2 (untilNext quota.period past' a') (serve work' s' a')) ∨
        (Passed work s.2 a (serve work s a) ∧ Passed work' s'.2 a' (serve work' s' a')) := by
  have hb := Quota.burst_of_perWindow hn hq
  have here := limitsEach hn hb work inner brief
  refine ⟨client?_iff, here, ?_⟩
  intro τ' work' inner' arrivals' brief' past a past' a' hp hp' same count
  have there := limitsEach hn hb work' inner' brief'
  have alike : Exhausted n past a ↔ Exhausted n past' a' := by
    unfold Exhausted
    simp only [← client?_iff]
    rw [same, count]
  by_cases h : Exhausted n past a
  · exact .inl ⟨here.refused past a hp h, there.refused past' a' hp' (alike.mp h)⟩
  · exact .inr ⟨here.passed past a hp h,
      there.passed past' a' hp' (fun h' => h (alike.mpr h'))⟩

/-- One request a minute: the second that comes from 10.0.0.1 is refused, though it says so in
other words and another client calls in between. -/
theorem the_second_call_in_a_minute_is_refused :
    let call (nanos : Nat) (value : String) : Arrival :=
      ⟨nanos, none, { method := "GET", path := "/", headers := [("x-forwarded-for", value)] }⟩
    let past := [call 0 "10.0.0.1", call 5 "2001:db8::1"]
    let late := call 7 " 10.0.0.1 , 10.0.0.9"
    let work (_ : Request) : Act Unit Response := pure (.plain 200 "ok")
    let quota : Quota := ⟨1, 60000000000⟩
    let s := after work ({ quota }, ()) past
    Quota.perWindow 1 60 = .ok quota ∧ Brief quota.period (past ++ [late]) ∧
      Exhausted 1 past late ∧ Refused s.2 59999999993 (serve work s late) := by
  intro call past late work quota s
  have one : (call 0 "10.0.0.1").client? = some (.v4 10 0 0 1) := by decide +kernel
  have other : (call 5 "2001:db8::1").client? ≠ some (.v4 10 0 0 1) := by decide +kernel
  have again : late.client? = some (.v4 10 0 0 1) := by decide +kernel
  have before : earlier past late = [call 0 "10.0.0.1"] := by
    simp [earlier_eq again, own, past, one, other]
  have exhausted : Exhausted 1 past late :=
    ⟨⟨_, (client?_iff late _).mp again⟩, by simp [before]⟩
  have brief : Brief quota.period (past ++ [late]) := by
    constructor <;> simp [past, late, call, quota]
  have set : Quota.perWindow 1 60 = .ok quota := by decide
  have limits := (a_client_is_limited_by_its_own_requests_alone (by decide) set work () brief).2.1
  have refused := limits.refused past late (List.prefix_refl _) exhausted
  have wait : untilNext quota.period past late = 59999999993 := by
    simp [untilNext, before, late, call, quota]
  rw [wait] at refused
  exact ⟨set, brief, exhausted, refused⟩

end IpLimiter

end Http

end ServiceMesh
