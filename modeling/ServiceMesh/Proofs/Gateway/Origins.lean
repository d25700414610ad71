-- The origins whose pages may call through a gateway: which of those that are configured
-- can be told, the one that no gateway starts with, and who is told to be allowed for as
-- long as the gateway runs.
import ServiceMesh.Gateway.Server
import ServiceMesh.Proofs.Endpoint.Quotas
import ServiceMesh.Settings.Process

namespace ServiceMesh

namespace Act

variable {σ τ α β π : Type} {part : σ → π}

/-! ## Acts that leave something alone -/

/-- Whatever comes of an act, it leaves a part of the state as it was. -/
def Spares (part : σ → π) (a : Act σ α) : Prop := ∀ s, part (a.run s).state = part s

theorem spares_pure (x : α) : Spares part (pure x : Act σ α) := fun _ => rfl

theorem spares_get : Spares part (get : Act σ σ) := fun _ => rfl

theorem spares_note (notes : List Note) : Spares part (note notes : Act σ Unit) := fun _ => rfl

theorem spares_noting (p : α × List Note) : Spares part (noting p : Act σ α) := fun _ => rfl

theorem spares_modify {f : σ → σ} (h : ∀ s, part (f s) = part s) : Spares part (modify f) := h

theorem spares_on {view : σ → τ} {put : τ → σ → σ} (h : ∀ t s, part (put t s) = part s)
    (a : Act τ α) : Spares part (a.on view put) := by
  intro s
  match hrun : a.run (view s) with
  | ⟨x, t, notes⟩ =>
    rw [run_on hrun]
    exact h t s

theorem spares_bind {a : Act σ α} {f : α → Act σ β} (ha : Spares part a)
    (hf : ∀ x, Spares part (f x)) : Spares part (a >>= f) := by
  intro s
  have first := ha s
  rw [run_bind]
  match hrun : a.run s with
  | ⟨.error c, s', notes⟩ =>
    rw [hrun] at first
    exact first
  | ⟨.ok x, s', notes⟩ =>
    rw [hrun] at first
    exact (hf x s').trans first

end Act

/-! ## Requests through all layers -/

namespace Http

open Act

variable {σ τ γ π : Type} {part : σ → π}

theorem Cors.spares_layer (c : Cors) {work : Request → Act σ Response}
    (h : ∀ r, Spares part (work r)) (r : Request) : Spares part (c.layer work r) := by
  unfold Cors.layer
  split
  · exact spares_pure _
  · exact spares_bind (h r) fun _ => spares_pure _

theorem IpLimiter.spares_limited {view : σ → IpLimiter} {put : IpLimiter → σ → σ}
    (hput : ∀ l s, part (put l s) = part s) (peer : Option IpAddress)
    {work : Request → Act σ Response} (h : ∀ r, Spares part (work r)) (r : Request) :
    Spares part (IpLimiter.limited view put peer work r) := by
  unfold IpLimiter.limited
  split
  · exact spares_bind (spares_note _) fun _ => h r
  · refine spares_bind (spares_on hput _) fun refusal => ?_
    cases refusal with
    | none => exact h r
    | some f => exact spares_noting _

namespace Route

theorem spares_standard (fresh : String) {work : String → Request → Act σ Response}
    (h : ∀ id r, Spares part (work id r)) (r : Request) :
    Spares part (standard fresh work r) := by
  unfold standard withRequestId
  refine spares_bind (spares_bind (h _ _) fun response => ?_) fun _ => spares_pure _
  exact spares_bind (spares_note _) fun _ => spares_pure _

theorem spares_respond {layers : (γ → Request → Act σ Response) → Request → Act σ Response}
    (hlayers : ∀ work, (∀ known r, Spares part (work known r)) → ∀ r, Spares part (layers work r))
    (routes : List (Route τ)) {handle : γ → τ → Request → Act σ Response}
    (h : ∀ known target r, Spares part (handle known target r)) (r : Request) :
    Spares part (respond layers routes handle r) := by
  unfold respond
  split
  · exact hlayers _ (fun _ _ => spares_pure _) r
  · split
    · exact spares_bind (hlayers _ (fun known r => h known _ r) r) fun _ => spares_pure _
    · exact spares_bind (hlayers _ (fun _ _ => spares_pure _) r) fun _ => spares_pure _

end Route

end Http

theorem Operation.spares_handle {σ π : Type} {part : σ → π}
    {call : (op : Operation) → op.Request → Act σ (Except Failure op.Answer)}
    (h : ∀ op q, Act.Spares part (call op q)) (op : Operation) (r : Http.Request) :
    Act.Spares part (op.handle call r) := by
  unfold Operation.handle
  split
  · exact Act.spares_noting _
  · refine Act.spares_bind (h op _) fun result => ?_
    cases result with
    | error f => exact Act.spares_noting _
    | ok a => exact Act.spares_noting _

namespace Gateway

open Act

/-- No request changes who may call. -/
theorem spares_serve (remote : Remote) (peer : Option Http.IpAddress) (fresh metrics : String)
    (r : Http.Request) : Spares cors (serve remote peer fresh metrics r) := by
  unfold serve
  refine Http.Route.spares_respond ?_ routes ?_ r
  · intro work hwork r
    unfold layers
    refine spares_bind spares_get fun g => Http.Cors.spares_layer _ ?_ r
    refine Http.Route.spares_standard fresh fun id r => ?_
    unfold limited
    refine spares_bind spares_get fun g => ?_
    split
    · exact hwork id r
    · refine Http.IpLimiter.spares_limited ?_ peer (hwork id) r
      intro l g
      rfl
  · intro _ target r
    unfold page
    refine spares_bind spares_get fun g => ?_
    cases target with
    | health => exact spares_pure _
    | metrics => exact spares_pure _
    | operation op =>
      refine Operation.spares_handle (fun op q => ?_) op r
      have put : ∀ l g, (putLink op l g).cors = g.cors := fun _ _ => rfl
      exact spares_on put (Link.run g.rules remote op q)

theorem spares_discover : Spares cors discover := fun _ => rfl

theorem spares_change (ms : List Mutation) : Spares cors (change ms) :=
  spares_bind (spares_modify fun _ => rfl) fun _ => spares_discover

/-! ## A gateway at work -/

/-- What happens to a gateway: a request of a peer, with what is needed to serve it, or changes
of the registry. -/
inductive Event where
  | request (remote : Remote) (peer : Option Http.IpAddress) (fresh metrics : String)
    (r : Http.Request)
  | change (ms : List Mutation)

def step (g : Gateway) : Event → Gateway
  | .request remote peer fresh metrics r => ((serve remote peer fresh metrics r).run g).state
  | .change ms => ((change ms).run g).state

def after (g : Gateway) (events : List Event) : Gateway := events.foldl step g

theorem cors_step (g : Gateway) (e : Event) : (g.step e).cors = g.cors := by
  cases e with
  | request remote peer fresh metrics r => exact spares_serve remote peer fresh metrics r g
  | change ms => exact spares_change ms g

/-- Who may call is settled for as long as a gateway runs. -/
theorem cors_after (g : Gateway) (events : List Event) : (g.after events).cors = g.cors := by
  induction events generalizing g with
  | nil => rfl
  | cons e events ih => exact (ih (g.step e)).trans (cors_step g e)

/-! ## Browsers that ask first -/

/-- The header that tells a browser which origin may call. -/
def allowedOrigin : String := "access-control-allow-origin"

theorem header?_preflight (c : Http.Cors) (r : Http.Request) :
    (c.preflight r).header? allowedOrigin = c.allowed? r := by
  unfold Http.Response.header? Http.Cors.preflight Http.Cors.headers
  cases c.allowed? r <;> rfl

theorem header?_withHeader {response : Http.Response} {name value other : String}
    (h : other ≠ name) :
    (response.withHeader other value).header? name = response.header? name := by
  unfold Http.Response.header? Http.Response.withHeader
  rw [List.find?_append]
  simp [h]

/-- Whoever asks first is answered at once, wherever the request leads. -/
theorem run_serve_preflight (remote : Remote) (peer : Option Http.IpAddress)
    (fresh metrics : String) {r : Http.Request} (hr : r.method = "OPTIONS") (g : Gateway) :
    ∃ response, (serve remote peer fresh metrics r).run g = ⟨.ok response, g, []⟩ ∧
      response.header? allowedOrigin = g.cors.allowed? r := by
  have answered : ∀ work : String → Http.Request → Act Gateway Http.Response,
      (layers peer fresh work r).run g = ⟨.ok (g.cors.preflight r), g, []⟩ := by
    intro work
    unfold layers Http.Cors.layer
    rw [Act.run_bind_ok (Act.run_get g), hr]
    rfl
  unfold serve Http.Route.respond
  split
  · exact ⟨_, answered _, header?_preflight _ _⟩
  · next route _ =>
    -- No route takes the method, so the answer tells as well which one the route would take.
    have refused : ¬ route.takes r.method = true := by
      unfold Http.Route.takes
      rw [hr]
      cases route.method <;> decide
    rw [if_neg refused, Act.run_bind_ok (answered _)]
    refine ⟨_, rfl, ?_⟩
    rw [header?_withHeader (by decide), header?_preflight]

theorem allowed?_eq_some {c : Http.Cors} {r : Http.Request} {origin : String} :
    c.allowed? r = some origin ↔ r.header? "origin" = some origin ∧ origin ∈ c.origins := by
  unfold Http.Cors.allowed?
  rw [Option.filter_eq_some_iff]
  simp

/-! ## Starting -/

/-- Acts that each end well all end well. -/
theorem run_forM_ok {σ ι : Type} {f : ι → Act σ Unit} (is : List ι)
    (h : ∀ i s, ∃ s' notes, (f i).run s = ⟨.ok (), s', notes⟩) :
    ∀ s, ∃ s' notes, (is.forM f).run s = ⟨.ok (), s', notes⟩ := by
  induction is with
  | nil => exact fun s => ⟨s, [], rfl⟩
  | cons i is ih =>
    intro s
    obtain ⟨s₁, notes, hone⟩ := h i s
    obtain ⟨s₂, more, hrest⟩ := ih s₁
    have first : (i :: is).forM f = (f i >>= fun _ => is.forM f) := rfl
    rw [first, Act.run_bind_ok hone, hrest]
    exact ⟨s₂, notes ++ more, rfl⟩

/-- A link that knows of no instance opens nothing, so nothing can go wrong. -/
theorem run_openLinks (rules : GatewayRules) (g : Gateway) :
    ∃ g' notes, (openLinks rules).run g = ⟨.ok (), g', notes⟩ :=
  run_forM_ok Operation.all (fun _ _ => ⟨_, _, rfl⟩) g

/-- No limit that 32 bits can hold outruns a minute. -/
theorem run_limitClients {rules : GatewayRules} (hlimit : rules.ipLimit < UInt32.size)
    (g : Gateway) : ∃ g', (limitClients rules).run g = ⟨.ok (), g', []⟩ := by
  have minute : 60 * 1000 * 1000000 < UInt64.size := by decide
  obtain ⟨quota, hquota⟩ := Quota.exists_perWindow hlimit minute
  unfold limitClients
  rw [hquota]
  split <;> exact ⟨_, rfl⟩

/-- What a gateway breaks off with if it is to tell the wildcard. -/
def wildcardCrash : Crash :=
  .other ("Wildcard origin (\x60*\x60) cannot be passed to \x60AllowOrigin::list\x60. "
    ++ "Use \x60AllowOrigin::any()\x60 instead")

/-- The wildcard can be told like any origin, so it is not dropped. -/
theorem contains_usable_wildcard {origins : List String} :
    (origins.filter Http.isHeaderValue).contains Http.Cors.wildcard = true ↔
      Http.Cors.wildcard ∈ origins := by
  have told : Http.isHeaderValue Http.Cors.wildcard = true := by decide
  rw [List.contains_iff_mem, List.mem_filter, and_iff_left told]

theorem run_admitOrigins_of_mem {rules : GatewayRules}
    (h : Http.Cors.wildcard ∈ rules.corsOrigins) (g : Gateway) :
    ∃ notes, (admitOrigins rules).run g = ⟨.error wildcardCrash, g, notes⟩ := by
  unfold admitOrigins Http.Cors.ofOrigins
  rw [if_pos (contains_usable_wildcard.mpr h)]
  exact ⟨_, rfl⟩

theorem run_admitOrigins_of_notMem {rules : GatewayRules}
    (h : Http.Cors.wildcard ∉ rules.corsOrigins) (g : Gateway) :
    ∃ notes, (admitOrigins rules).run g =
      ⟨.ok (), { g with cors := ⟨rules.corsOrigins.filter Http.isHeaderValue⟩ }, notes⟩ := by
  unfold admitOrigins Http.Cors.ofOrigins
  rw [if_neg (mt contains_usable_wildcard.mp h)]
  exact ⟨_, rfl⟩

/-- Whatever a gateway does before it takes in the origins ends well. -/
theorem run_start {g : Gateway} (hlimit : g.rules.ipLimit < UInt32.size) :
    ∃ g' notes, ∀ o, (admitOrigins g.rules >>= fun _ => discover).run g' = o →
      start.run g = ⟨o.result, o.state, notes ++ o.notes⟩ := by
  obtain ⟨g₁, notes, hlinks⟩ := run_openLinks g.rules g
  obtain ⟨g', hclients⟩ := run_limitClients hlimit g₁
  refine ⟨g', notes, ?_⟩
  rintro _ rfl
  unfold start
  rw [Act.run_bind_ok (Act.run_get g), Act.run_bind_ok hlinks, Act.run_bind_ok hclients]
  rfl

theorem run_start_of_mem {g : Gateway} (hlimit : g.rules.ipLimit < UInt32.size)
    (h : Http.Cors.wildcard ∈ g.rules.corsOrigins) :
    ∃ g' notes, start.run g = ⟨.error wildcardCrash, g', notes⟩ := by
  obtain ⟨g', notes, hstart⟩ := run_start hlimit
  obtain ⟨more, hadmits⟩ := run_admitOrigins_of_mem h g'
  exact ⟨g', notes ++ more, hstart _ (Act.run_bind_error _ hadmits)⟩

theorem run_start_of_notMem {g : Gateway} (hlimit : g.rules.ipLimit < UInt32.size)
    (h : Http.Cors.wildcard ∉ g.rules.corsOrigins) :
    ∃ g' notes, start.run g = ⟨.ok (), g', notes⟩ ∧
      g'.cors.origins = g.rules.corsOrigins.filter Http.isHeaderValue := by
  obtain ⟨g', notes, hstart⟩ := run_start hlimit
  obtain ⟨more, hadmits⟩ := run_admitOrigins_of_notMem h g'
  exact ⟨_, _, hstart _ (Act.run_bind_ok hadmits), rfl⟩

end Gateway

/-! ## What is configured -/

namespace Environment

/-- The text of the origins, or what stands for it if nothing is set. -/
def originsText (env : Environment) : String :=
  (env.get? "CORS_ALLOWED_ORIGINS").getD "http://localhost:3000"

/-- An item of a text with commas between, without the blanks around it. -/
def Lists (text item : String) : Prop := ∃ piece ∈ text.splitOn ",", Text.trim piece = item

/-- Every text can be read, whatever it says, and gives its items that are not empty. -/
theorem corsOrigins_ok (env : Environment) : ∃ origins, env.corsOrigins = .ok origins ∧
    ∀ origin, origin ∈ origins ↔ origin ≠ "" ∧ Lists env.originsText origin := by
  have text : env.require "CORS_ALLOWED_ORIGINS" (some "http://localhost:3000") false =
      .ok env.originsText := by
    unfold require originsText
    cases env.get? "CORS_ALLOWED_ORIGINS" <;> rfl
  unfold corsOrigins
  rw [text]
  refine ⟨_, rfl, fun origin => ?_⟩
  rw [List.mem_filter, List.mem_map, Bool.not_eq_true', String.isEmpty_eq_false_iff, and_comm]
  exact Iff.rfl

end Environment

/-! ## Who may call -/

namespace Gateway

/-- An origin that is configured, and that can be told. -/
def Admits (origins : List String) (origin : String) : Prop :=
  origin ∈ origins ∧ Http.isHeaderValue origin = true

/-- The outcome of a request: an answer that names exactly the origin of the request, if that
may call, and a gateway that is as it was. -/
def Answers (origins : List String) (r : Http.Request) (g : Gateway)
    (o : Outcome Gateway Http.Response) : Prop :=
  ∃ response, o = ⟨.ok response, g, []⟩ ∧ ∀ origin,
    response.header? allowedOrigin = some origin ↔
      r.header? "origin" = some origin ∧ Admits origins origin

/-- The outcome of a start: a gateway that answers every browser that asks first, whatever has
happened since. -/
def Welcomes (origins : List String) (o : Outcome Gateway Unit) : Prop :=
  o.result = .ok () ∧ ∀ (events : List Event) (remote : Remote) (peer : Option Http.IpAddress)
    (fresh metrics : String) (r : Http.Request), r.method = "OPTIONS" →
      Answers origins r (o.state.after events)
        ((serve remote peer fresh metrics r).run (o.state.after events))

theorem answers_of_cors {origins : List String} {g : Gateway}
    (h : g.cors.origins = origins.filter Http.isHeaderValue) (remote : Remote)
    (peer : Option Http.IpAddress) (fresh metrics : String) {r : Http.Request}
    (hr : r.method = "OPTIONS") :
    Answers origins r g ((serve remote peer fresh metrics r).run g) := by
  obtain ⟨response, hrun, htold⟩ := run_serve_preflight remote peer fresh metrics hr g
  refine ⟨response, hrun, fun origin => ?_⟩
  rw [htold, allowed?_eq_some, h, List.mem_filter]
  exact Iff.rfl

section Start

variable {g : Gateway} (hlimit : g.rules.ipLimit < UInt32.size)

include hlimit

theorem crashes_iff : (start.run g).result = .error wildcardCrash ↔
    Http.Cors.wildcard ∈ g.rules.corsOrigins := by
  by_cases h : Http.Cors.wildcard ∈ g.rules.corsOrigins
  · obtain ⟨g', notes, hstart⟩ := run_start_of_mem hlimit h
    rw [hstart]
    exact iff_of_true rfl h
  · obtain ⟨g', notes, hstart, -⟩ := run_start_of_notMem hlimit h
    rw [hstart]
    exact iff_of_false nofun h

theorem welcomes_iff : Welcomes g.rules.corsOrigins (start.run g) ↔
    Http.Cors.wildcard ∉ g.rules.corsOrigins := by
  by_cases h : Http.Cors.wildcard ∈ g.rules.corsOrigins
  · obtain ⟨g', notes, hstart⟩ := run_start_of_mem hlimit h
    rw [hstart]
    exact iff_of_false (fun welcomes => nomatch welcomes.1) (not_not_intro h)
  · obtain ⟨g', notes, hstart, hcors⟩ := run_start_of_notMem hlimit h
    rw [hstart]
    -- Nothing that happens later touches the origins, so the ones of the start still count.
    refine iff_of_true ⟨rfl, fun events remote peer fresh metrics r hr => ?_⟩ h
    exact answers_of_cors ((congrArg _ (cors_after g' events)).trans hcors) remote peer fresh
      metrics hr

end Start

/-- From every text of origins a list is read. A gateway with a list of origins starts, and
answers every browser that asks first by whether its origin is in the list and can be told,
exactly if the wildcard is not in it; with the wildcard it breaks off. -/
theorem a_gateway_welcomes_exactly_if_no_origin_is_the_wildcard (env : Environment)
    (rules : GatewayRules) (now : Moment) (registry : Registry)
    (hlimit : rules.ipLimit < UInt32.size) :
    (∃ origins, env.corsOrigins = .ok origins ∧
      ∀ origin, origin ∈ origins ↔ origin ≠ "" ∧ Environment.Lists env.originsText origin) ∧
    (Welcomes rules.corsOrigins (start.run (idle rules now registry)) ↔
      Http.Cors.wildcard ∉ rules.corsOrigins) ∧
    ((start.run (idle rules now registry)).result = .error wildcardCrash ↔
      Http.Cors.wildcard ∈ rules.corsOrigins) :=
  ⟨env.corsOrigins_ok, welcomes_iff hlimit, crashes_iff hlimit⟩

/-- Rules with some origins. -/
def rulesFor (origins : List String) : GatewayRules := ⟨{}, ⟨3, 500⟩, origins, 600⟩

/-- An origin that cannot be told is passed over, and the gateway starts with the other one. -/
theorem an_origin_with_a_break_is_passed_over :
    (rulesFor ["bad\norigin", "http://ok.example"]).ipLimit < UInt32.size ∧
    Welcomes ["bad\norigin", "http://ok.example"]
      (start.run (idle (rulesFor ["bad\norigin", "http://ok.example"]) ⟨0, 0⟩ {})) :=
  have hlimit : (600 : Nat) < UInt32.size := by decide
  ⟨hlimit, (a_gateway_welcomes_exactly_if_no_origin_is_the_wildcard [] (rulesFor _) _ _
    hlimit).2.1.mpr (by decide)⟩

/-- With the wildcard beside an origin that can be told, the gateway breaks off. -/
theorem a_wildcard_beside_an_origin_breaks_off :
    (start.run (idle (rulesFor ["http://ok.example", "*"]) ⟨0, 0⟩ {})).result =
        .error wildcardCrash ∧
      ¬ Welcomes ["http://ok.example", "*"]
        (start.run (idle (rulesFor ["http://ok.example", "*"]) ⟨0, 0⟩ {})) := by
  have hlimit : (rulesFor ["http://ok.example", "*"]).ipLimit < UInt32.size := by decide
  have among : Http.Cors.wildcard ∈ (rulesFor ["http://ok.example", "*"]).corsOrigins := by decide
  exact ⟨(crashes_iff (g := idle (rulesFor _) ⟨0, 0⟩ {}) hlimit).mpr among,
    fun welcomes => (welcomes_iff (g := idle (rulesFor _) ⟨0, 0⟩ {}) hlimit).mp welcomes among⟩

end Gateway

end ServiceMesh
