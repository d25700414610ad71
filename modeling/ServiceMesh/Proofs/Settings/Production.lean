-- Real work: what a process needs for it stands in the environment, or the process does
-- not start. Of the secret for tokens only that it is set is looked at, not what it says.
import ServiceMesh.Proofs.Settings.Clock
import ServiceMesh.Proofs.Settings.LoadingLaws

namespace ServiceMesh

/-! ## Whose fault it is -/

/-- If nothing is read, the settings are to blame. -/
def BlamesSettings {α : Type} (x : Except Failure α) : Prop :=
  ∀ f, x = .error f → ∃ t, f = .configuration t

section Blame

variable {α β : Type} {x : Except Failure α}

theorem blames_ok (a : α) : BlamesSettings (.ok a) := by
  intro f h
  cases h

theorem blames_configuration (t : Trouble) :
    BlamesSettings (.error (.configuration t) : Except Failure α) := by
  intro f h
  cases h
  exact ⟨t, rfl⟩

theorem BlamesSettings.bind {f : α → Except Failure β} (hx : BlamesSettings x)
    (hf : ∀ a, BlamesSettings (f a)) : BlamesSettings (x >>= f) := by
  intro failure h
  cases x with
  | error cause =>
    cases h
    exact hx failure rfl
  | ok a => exact hf a failure h

end Blame

namespace Environment

variable {env : Environment}

theorem blames_require (key : String) (default : Option String) (prod : Bool) :
    BlamesSettings (env.require key default prod) := by
  unfold require
  split
  · exact blames_ok _
  · exact blames_ok _
  · exact blames_configuration _

theorem blames_parsed {α : Type} (key : String) (read : String → Except String α) (default : α) :
    BlamesSettings (env.parsed key read default) := by
  unfold parsed
  split
  · exact blames_ok _
  · split
    · exact blames_ok _
    · exact blames_configuration _

theorem blames_service (name fresh : String) : BlamesSettings (env.service name fresh) :=
  (blames_require _ _ _).bind fun _ => (blames_require _ _ _).bind fun _ => blames_ok _

theorem blames_endpoint : BlamesSettings env.endpoint :=
  (blames_parsed _ _ _).bind fun _ => (blames_parsed _ _ _).bind fun _ =>
    (blames_parsed _ _ _).bind fun _ => blames_ok _

theorem blames_token : BlamesSettings env.token :=
  (blames_require _ _ _).bind fun _ => (blames_parsed _ _ _).bind fun _ => blames_ok _

theorem blames_corsOrigins : BlamesSettings env.corsOrigins :=
  (blames_require _ _ _).bind fun _ => blames_ok _

theorem blames_retry : BlamesSettings env.retry :=
  (blames_parsed _ _ _).bind fun _ => (blames_parsed _ _ _).bind fun _ => blames_ok _

/-! ## What is required -/

/-- A variable is set, and says something. -/
def Says (env : Environment) (key value : String) : Prop :=
  env.get? key = some value ∧ Text.blank value = false

theorem present?_eq_some {key value : String} :
    env.present? key = some value ↔ env.Says key value := by
  unfold present? Says
  rw [Option.filter_eq_some_iff, Bool.not_eq_true']

theorem present?_isSome {key : String} :
    (env.present? key).isSome = true ↔ ∃ value, env.Says key value := by
  simp only [Option.isSome_iff_exists, present?_eq_some]

/-- Real work takes no default. -/
theorem require_of_prod {key value : String} {default : Option String} :
    env.require key default true = .ok value ↔ env.get? key = some value := by
  unfold require
  cases env.get? key <;> simp

/-- Elsewhere a variable with a default is always there. -/
theorem exists_require (env : Environment) (key default : String) :
    ∃ value, env.require key (some default) false = .ok value := by
  unfold require
  cases env.get? key <;> exact ⟨_, rfl⟩

theorem exists_service (env : Environment) (name fresh : String) :
    ∃ service, env.service name fresh = .ok service := by
  obtain ⟨name', hname⟩ := exists_require env "SERVICE_NAME" name
  obtain ⟨host, hhost⟩ := exists_require env "SERVICE_HOST" "127.0.0.1"
  unfold service
  rw [hname, hhost]
  exact ⟨_, rfl⟩

theorem exists_corsOrigins (env : Environment) : ∃ origins, env.corsOrigins = .ok origins := by
  obtain ⟨text, htext⟩ := exists_require env "CORS_ALLOWED_ORIGINS" "http://localhost:3000"
  unfold corsOrigins
  rw [htext]
  exact ⟨_, rfl⟩

/-- How long tokens are good for. -/
def tokenExpiry (env : Environment) : Except Failure Int :=
  env.parsed "JWT_EXPIRY_SECONDS" (Text.asInteger (.signed 64)) 3600

theorem token_of_prod (h : env.isProd = true) {tokens : TokenSettings} :
    env.token = .ok tokens ↔
      env.get? "JWT_SECRET" = some tokens.secret ∧ env.tokenExpiry = .ok tokens.expirySeconds := by
  have hread : env.token = (env.require "JWT_SECRET" (some "dev-only-jwt-secret") true >>=
      fun secret => env.tokenExpiry >>= fun expiry => .ok ⟨secret, expiry⟩) := by
    unfold token
    rw [h]
    rfl
  rw [hread]
  constructor
  · intro hok
    obtain ⟨secret, hsecret, hok⟩ := of_bind_ok hok
    obtain ⟨expiry, hexpiry, hok⟩ := of_bind_ok hok
    cases hok
    exact ⟨require_of_prod.mp hsecret, hexpiry⟩
  · rintro ⟨hsecret, hexpiry⟩
    rw [require_of_prod.mpr hsecret, hexpiry]
    rfl

end Environment

/-! ## Processes that do real work -/

namespace Workplace

variable {w : Workplace} {fresh : String}

theorem blames_port (default : Nat) : BlamesSettings (w.port default) := by
  unfold port
  dsimp only
  split
  · exact blames_configuration _
  · exact Environment.blames_parsed _ _ _

theorem blames_both (default : Nat) : BlamesSettings (w.both default) :=
  (blames_port default).bind fun _ => (Environment.blames_parsed _ _ _).bind fun _ => blames_ok _

theorem blames_user (fresh : String) : BlamesSettings (w.user fresh) := by
  unfold user
  refine (blames_both 8083).bind fun ports => ?_
  dsimp only
  split
  · exact blames_configuration _
  · exact (Environment.blames_service _ _).bind fun _ => Environment.blames_endpoint.bind fun _ =>
      Environment.blames_token.bind fun _ => blames_ok _

theorem blames_gateway : BlamesSettings w.gateway := by
  unfold gateway
  dsimp only
  split
  · exact blames_configuration _
  · exact Environment.blames_corsOrigins.bind fun _ => (blames_port 9090).bind fun _ =>
      Environment.blames_endpoint.bind fun _ => Environment.blames_retry.bind fun _ =>
        (Environment.blames_parsed _ _ _).bind fun _ => blames_ok _

/-- A process that does real work, with no file of variables beside it. -/
structure Production (w : Workplace) : Prop where
  prod : w.environment.get? "ENVIRONMENT" = some "prod"
  alone : w.files.lookup ".env" = none

theorem Production.extended (h : w.Production) : w.extended = w.environment := by
  unfold Workplace.extended
  rw [h.alone]

theorem Production.isProd (h : w.Production) : w.environment.isProd = true := by
  unfold Environment.isProd
  rw [h.prod]
  rfl

/-- The service of users comes by settings that are read one by one, with a store among them. -/
theorem user_ok_iff (h : w.Production) {s : UserSettings} :
    w.user fresh = .ok s ↔
      w.both 8083 = .ok (s.port, s.grpcPort) ∧
      s.stores = w.environment.stores "usersvc" ∧ s.stores.mongodb.isSome = true ∧
      w.environment.service "usersvc" fresh = .ok s.service ∧
      w.environment.endpoint = .ok s.endpoint ∧ w.environment.token = .ok s.token ∧
      s.registry = w.environment.registry ∧ s.telemetry = w.environment.telemetry := by
  have hname : ServiceKind.user.name = "usersvc" := rfl
  unfold user
  rw [h.extended]
  constructor
  · intro hok
    obtain ⟨⟨port, grpcPort⟩, hports, hok⟩ := of_bind_ok hok
    dsimp only at hok
    rw [h.isProd, Bool.true_and] at hok
    by_cases hstore : (w.environment.stores ServiceKind.user.name).mongodb.isNone = true
    · rw [if_pos hstore] at hok
      cases hok
    · rw [if_neg hstore] at hok
      obtain ⟨service, hservice, hok⟩ := of_bind_ok hok
      obtain ⟨endpoint, hendpoint, hok⟩ := of_bind_ok hok
      obtain ⟨token, htoken, hok⟩ := of_bind_ok hok
      cases hok
      exact ⟨hports, rfl, Option.isSome_iff_ne_none.mpr (by simpa using hstore), hservice,
        hendpoint, htoken, rfl, rfl⟩
  · rintro ⟨hports, hstores, hstore, hservice, hendpoint, htoken, hregistry, htelemetry⟩
    rw [hstores] at hstore
    have hnone : ¬ (w.environment.stores "usersvc").mongodb.isNone = true := by
      simpa using Option.isSome_iff_ne_none.mp hstore
    rw [hports, hname]
    simp only [bind, Except.bind, h.isProd, Bool.true_and, if_neg hnone, hservice, hendpoint,
      htoken]
    rw [← hstores, ← hregistry, ← htelemetry]
    rfl

/-- The registry is read as it stands. -/
theorem early_registry {env : Environment} {registry : RegistrySettings} {origins : List String}
    (h : early env = .ok (registry, origins)) : registry = env.registry := by
  unfold early at h
  by_cases hnone : (env.isProd && env.registry.consulUrl.isNone) = true
  · rw [if_pos hnone] at h
    cases h
  · rw [if_neg hnone] at h
    obtain ⟨read, -, hread⟩ := of_bind_ok h
    cases hread
    rfl

/-- What the gateway reads early it reads exactly if there is a registry. -/
theorem exists_early (h : w.Production) :
    (∃ read, early w.environment = .ok read) ↔ ∃ url, w.environment.Says "CONSUL_URL" url := by
  have hurl : (∃ url, w.environment.Says "CONSUL_URL" url) ↔
      w.environment.registry.consulUrl.isSome = true := Environment.present?_isSome.symm
  obtain ⟨origins, horigins⟩ := w.environment.exists_corsOrigins
  rw [hurl]
  unfold early
  rw [h.isProd, Bool.true_and, horigins]
  cases w.environment.registry.consulUrl with
  | none =>
    constructor
    · rintro ⟨read, hread⟩
      cases hread
    · intro hnone
      cases hnone
  | some url => exact ⟨fun _ => rfl, fun _ => ⟨_, rfl⟩⟩

/-- The gateway starts exactly if it has a registry and the rest can be read. -/
theorem exists_gateway (h : w.Production) :
    (∃ s, w.gateway = .ok s) ↔
      (∃ url, w.environment.Says "CONSUL_URL" url) ∧ ∃ s, w.late = .ok s := by
  rw [gateway_eq, ← exists_early h]
  cases early w.environment with
  | error f =>
    constructor
    · rintro ⟨s, hs⟩
      cases hs
    · rintro ⟨⟨read, hread⟩, -⟩
      cases hread
  | ok read =>
    cases w.late with
    | error f =>
      constructor
      · rintro ⟨s, hs⟩
        cases hs
      · rintro ⟨-, s, hs⟩
        cases hs
    | ok s => exact ⟨fun _ => ⟨⟨_, rfl⟩, _, rfl⟩, fun _ => ⟨_, rfl⟩⟩

end Workplace

/-! ## Another secret -/

namespace Environment

/-- The environment with a variable set anew. -/
def put (env : Environment) (key value : String) : Environment :=
  (key, value) :: env.filter (·.1 != key)

theorem get?_put_self (env : Environment) (key value : String) :
    (env.put key value).get? key = some value := by
  simp [put, get?]

theorem get?_put_ne (env : Environment) {key other : String} (h : other ≠ key) (value : String) :
    (env.put key value).get? other = env.get? other := by
  have hne : (other == key) = false := beq_eq_false_iff_ne.mpr h
  unfold put get?
  rw [List.lookup_cons, hne]
  dsimp only
  induction env with
  | nil => rfl
  | cons v env ih =>
    by_cases hv : v.1 = key
    · have hother : (other == v.1) = false := by rw [hv, hne]
      rw [List.filter_cons_of_neg (by simp [hv]), List.lookup_cons, hother, ih]
    · rw [List.filter_cons_of_pos (by simp [hv]), List.lookup_cons, List.lookup_cons, ih]

/-- Two environments in which everything but the secret for tokens is read alike. -/
structure SameButSecret (env env' : Environment) : Prop where
  get : ∀ key, key ≠ "JWT_SECRET" → env'.get? key = env.get? key
  layers : Setting.ofEnvironment env' = Setting.ofEnvironment env

theorem same_put (env : Environment) (secret : String) :
    env.SameButSecret (env.put "JWT_SECRET" secret) where
  get := fun _ h => get?_put_ne env h secret
  layers := by
    have hplain : ((Text.lowerAscii "JWT_SECRET").startsWith "app__") = false := by decide +kernel
    unfold put Setting.ofEnvironment
    rw [List.filterMap_cons_none (by simp [hplain]), List.filterMap_filter]
    refine List.filterMap_congr ?_
    rintro ⟨key, value⟩ -
    by_cases hkey : key = "JWT_SECRET"
    · simp [hkey, hplain]
    · simp [hkey]

namespace SameButSecret

variable {env env' : Environment}

theorem parsed (h : env.SameButSecret env') {α : Type} {key : String} (hkey : key ≠ "JWT_SECRET")
    (read : String → Except String α) (default : α) :
    env'.parsed key read default = env.parsed key read default := by
  unfold Environment.parsed
  rw [h.get key hkey]

theorem service (h : env.SameButSecret env') (name fresh : String) :
    env'.service name fresh = env.service name fresh := by
  unfold Environment.service require present?
  rw [h.get _ (by decide), h.get _ (by decide), h.get _ (by decide)]

theorem endpoint (h : env.SameButSecret env') : env'.endpoint = env.endpoint := by
  unfold Environment.endpoint
  rw [h.parsed (by decide), h.parsed (by decide), h.parsed (by decide)]

theorem tokenExpiry (h : env.SameButSecret env') : env'.tokenExpiry = env.tokenExpiry :=
  h.parsed (by decide) _ _

theorem stores (h : env.SameButSecret env') (database : String) :
    env'.stores database = env.stores database := by
  unfold Environment.stores present?
  rw [h.get _ (by decide), h.get _ (by decide), h.get _ (by decide), h.get _ (by decide)]

theorem registry (h : env.SameButSecret env') : env'.registry = env.registry := by
  unfold Environment.registry present?
  rw [h.get _ (by decide), h.get _ (by decide)]

theorem telemetry (h : env.SameButSecret env') : env'.telemetry = env.telemetry := by
  unfold Environment.telemetry present?
  rw [h.get _ (by decide), h.get _ (by decide)]

end SameButSecret

end Environment

namespace Workplace

variable {w : Workplace} {fresh : String}

/-- The workplace with another secret for tokens. -/
def withSecret (w : Workplace) (secret : String) : Workplace :=
  { w with environment := w.environment.put "JWT_SECRET" secret }

theorem Production.withSecret (h : w.Production) (secret : String) :
    (w.withSecret secret).Production where
  prod := (Environment.get?_put_ne _ (by decide) secret).trans h.prod
  alone := h.alone

theorem both_withSecret (h : w.Production) (secret : String) (default : Nat) :
    (w.withSecret secret).both default = w.both default := by
  have same := Environment.same_put w.environment secret
  have hread (key : String) (read : String → Except String Nat) (port : Nat)
      (hkey : key ≠ "JWT_SECRET") :
      (w.environment.put "JWT_SECRET" secret).parsed key read port =
        w.environment.parsed key read port :=
    same.parsed hkey read port
  have hport : (w.withSecret secret).port default = w.port default := by
    unfold port
    rw [(h.withSecret secret).extended, h.extended]
    simp only [Workplace.withSecret, same.layers, hread "PORT" _ _ (by decide)]
  unfold both
  rw [hport, (h.withSecret secret).extended, h.extended]
  unfold Environment.grpcPort
  simp only [Workplace.withSecret, hread "GRPC_PORT" _ _ (by decide)]

/-- A process that starts would also start with any other text for its secret. -/
theorem user_withSecret (h : w.Production) {s : UserSettings} (hs : w.user fresh = .ok s)
    (secret : String) :
    (w.withSecret secret).user fresh = .ok { s with token := { s.token with secret } } := by
  have same := Environment.same_put w.environment secret
  obtain ⟨hports, hstores, hstore, hservice, hendpoint, htoken, hregistry, htelemetry⟩ :=
    (user_ok_iff h).mp hs
  refine (user_ok_iff (h.withSecret secret)).mpr ⟨?_, ?_, hstore, ?_, ?_, ?_, ?_, ?_⟩
  · rw [both_withSecret h, hports]
  · exact hstores.trans (same.stores _).symm
  · exact (same.service _ _).trans hservice
  · exact same.endpoint.trans hendpoint
  · refine (Environment.token_of_prod (h.withSecret secret).isProd).mpr ⟨?_, ?_⟩
    · exact Environment.get?_put_self _ _ _
    · exact same.tokenExpiry.trans ((Environment.token_of_prod h.isProd).mp htoken).2
  · exact hregistry.trans same.registry.symm
  · exact htelemetry.trans same.telemetry.symm

/-! ## The law -/

/-- Whatever a process that does real work needs comes from its environment and says
something, and any other process fails over its settings. -/
structure Safe (w : Workplace) (fresh : String) : Prop where
  user : ∀ s, w.user fresh = .ok s →
    (∃ m, s.stores.mongodb = some m ∧ w.environment.Says "MONGODB_URI" m.uri) ∧
      w.environment.Says "JWT_SECRET" s.token.secret
  gateway : ∀ s, w.gateway = .ok s →
    ∃ url, s.registry.consulUrl = some url ∧ w.environment.Says "CONSUL_URL" url
  user_fails : BlamesSettings (w.user fresh)
  gateway_fails : BlamesSettings w.gateway

/-- What becomes of processes that do real work. -/
structure Supplied (w : Workplace) (fresh : String) : Prop where
  /-- The service of users starts exactly if it has a store that says something, a secret that
  is set, and nothing else that cannot be read. -/
  user_starts : (∃ s, w.user fresh = .ok s) ↔
    (∃ uri, w.environment.Says "MONGODB_URI" uri) ∧
      (∃ secret, w.environment.get? "JWT_SECRET" = some secret) ∧
      (∃ ports, w.both 8083 = .ok ports) ∧ (∃ endpoint, w.environment.endpoint = .ok endpoint) ∧
      ∃ expiry, w.environment.tokenExpiry = .ok expiry
  /-- The gateway starts exactly if it has a registry that says something, and nothing else that
  cannot be read. -/
  gateway_starts : (∃ s, w.gateway = .ok s) ↔
    (∃ url, w.environment.Says "CONSUL_URL" url) ∧ ∃ s, w.late = .ok s
  store : ∀ s, w.user fresh = .ok s →
    ∃ m, s.stores.mongodb = some m ∧ w.environment.Says "MONGODB_URI" m.uri
  /-- The secret is what the environment says, be it nothing. -/
  secret : ∀ s, w.user fresh = .ok s → w.environment.get? "JWT_SECRET" = some s.token.secret
  any_secret : ∀ s, w.user fresh = .ok s → ∀ secret,
    (w.withSecret secret).user fresh = .ok { s with token := { s.token with secret } }
  registry : ∀ s, w.gateway = .ok s →
    ∃ url, s.registry.consulUrl = some url ∧ w.environment.Says "CONSUL_URL" url
  user_fails : BlamesSettings (w.user fresh)
  gateway_fails : BlamesSettings w.gateway
  /-- So the processes are safe, unless a secret is set to nothing and all else can be read. -/
  safe_iff : w.Safe fresh ↔ ∀ s, w.user fresh = .ok s → Text.blank s.token.secret = false

theorem store_of_user (h : w.Production) {s : UserSettings} (hs : w.user fresh = .ok s) :
    ∃ m, s.stores.mongodb = some m ∧ w.environment.Says "MONGODB_URI" m.uri := by
  obtain ⟨-, hstores, hstore, -⟩ := (user_ok_iff h).mp hs
  obtain ⟨m, hm⟩ := Option.isSome_iff_exists.mp hstore
  refine ⟨m, hm, ?_⟩
  rw [hstores] at hm
  obtain ⟨uri, huri, rfl⟩ := Option.map_eq_some_iff.mp hm
  exact Environment.present?_eq_some.mp huri

theorem secret_of_user (h : w.Production) {s : UserSettings} (hs : w.user fresh = .ok s) :
    w.environment.get? "JWT_SECRET" = some s.token.secret := by
  obtain ⟨-, -, -, -, -, htoken, -⟩ := (user_ok_iff h).mp hs
  exact ((Environment.token_of_prod h.isProd).mp htoken).1

theorem registry_of_gateway (h : w.Production) {s : GatewaySettings} (hs : w.gateway = .ok s) :
    ∃ url, s.registry.consulUrl = some url ∧ w.environment.Says "CONSUL_URL" url := by
  obtain ⟨⟨url, hurl⟩, -⟩ := (exists_gateway h).mp ⟨s, hs⟩
  have hregistry := early_registry (of_gateway_ok hs)
  refine ⟨url, ?_, hurl⟩
  rw [hregistry]
  exact Environment.present?_eq_some.mpr hurl

theorem exists_user (h : w.Production) :
    (∃ s, w.user fresh = .ok s) ↔
      (∃ uri, w.environment.Says "MONGODB_URI" uri) ∧
      (∃ secret, w.environment.get? "JWT_SECRET" = some secret) ∧
      (∃ ports, w.both 8083 = .ok ports) ∧ (∃ endpoint, w.environment.endpoint = .ok endpoint) ∧
      ∃ expiry, w.environment.tokenExpiry = .ok expiry := by
  constructor
  · rintro ⟨s, hs⟩
    obtain ⟨hports, -, -, -, hendpoint, htoken, -⟩ := (user_ok_iff h).mp hs
    obtain ⟨m, -, huri⟩ := store_of_user h hs
    obtain ⟨hsecret, hexpiry⟩ := (Environment.token_of_prod h.isProd).mp htoken
    exact ⟨⟨_, huri⟩, ⟨_, hsecret⟩, ⟨_, hports⟩, ⟨_, hendpoint⟩, _, hexpiry⟩
  · rintro ⟨⟨uri, huri⟩, ⟨secret, hsecret⟩, ⟨⟨port, grpcPort⟩, hports⟩, ⟨endpoint, hendpoint⟩,
      expiry, hexpiry⟩
    obtain ⟨service, hservice⟩ := w.environment.exists_service "usersvc" fresh
    have hstore : (w.environment.stores "usersvc").mongodb.isSome = true := by
      unfold Environment.stores
      rw [Environment.present?_eq_some.mpr huri]
      rfl
    have htoken : w.environment.token = .ok ⟨secret, expiry⟩ :=
      (Environment.token_of_prod h.isProd).mpr ⟨hsecret, hexpiry⟩
    exact ⟨⟨⟨port, grpcPort, service, w.environment.registry, w.environment.telemetry, endpoint⟩,
      w.environment.stores "usersvc", ⟨secret, expiry⟩⟩, (user_ok_iff h).mpr
        ⟨hports, rfl, hstore, hservice, hendpoint, htoken, rfl, rfl⟩⟩

theorem real_work_has_what_it_needs_but_for_an_empty_secret (h : w.Production) (fresh : String) :
    w.Supplied fresh where
  user_starts := exists_user h
  gateway_starts := exists_gateway h
  store := fun _ => store_of_user h
  secret := fun _ => secret_of_user h
  any_secret := fun _ => user_withSecret h
  registry := fun _ => registry_of_gateway h
  user_fails := blames_user fresh
  gateway_fails := blames_gateway
  safe_iff := by
    constructor
    · intro safe s hs
      exact (safe.user s hs).2.2
    · intro hblank
      refine ⟨?_, fun _ => registry_of_gateway h, blames_user fresh, blames_gateway⟩
      intro s hs
      exact ⟨store_of_user h hs, secret_of_user h hs, hblank s hs⟩

/-- All that either process needs. -/
def wellSupplied : Workplace :=
  ⟨[("ENVIRONMENT", "prod"), ("MONGODB_URI", "mongodb://db:27017"), ("JWT_SECRET", "s3cret"),
    ("CONSUL_URL", "http://consul:8500")], []⟩

theorem well_supplied_processes_start :
    wellSupplied.Production ∧ wellSupplied.Supplied "1" ∧
      (wellSupplied.user "1").map (·.token.secret) = .ok "s3cret" ∧
      wellSupplied.gateway.map (·.registry.consulUrl) = .ok (some "http://consul:8500") := by
  have production : wellSupplied.Production := ⟨by decide, by decide⟩
  exact ⟨production, real_work_has_what_it_needs_but_for_an_empty_secret production "1",
    by decide +kernel, by decide +kernel⟩

/-- The secret is set, to nothing. -/
def emptySecret : Workplace :=
  ⟨[("ENVIRONMENT", "prod"), ("MONGODB_URI", "mongodb://db:27017"), ("JWT_SECRET", "")], []⟩

/-- A store set to nothing would count as missing. The secret does not. -/
theorem real_work_starts_with_an_empty_secret :
    emptySecret.Production ∧
      (emptySecret.user "1").map (·.token.secret) = .ok "" ∧
      ¬ emptySecret.Safe "1" := by
  have production : emptySecret.Production := ⟨by decide, by decide⟩
  have hread : (emptySecret.user "1").map (·.token.secret) = .ok "" := by decide +kernel
  refine ⟨production, hread, ?_⟩
  intro safe
  cases hs : emptySecret.user "1" with
  | error f =>
    rw [hs] at hread
    cases hread
  | ok s =>
    rw [hs] at hread
    have hsecret : s.token.secret = "" := Except.ok.inj hread
    have hblank := (safe.user s hs).2.2
    rw [hsecret] at hblank
    revert hblank
    decide +kernel

end Workplace

end ServiceMesh
